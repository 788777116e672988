import SelectQuery.Proofs.Scope

/-!
# The history of a statement

Each operation is aimed at one slot of a statement, and what a slot holds in the end is told by the
operations aimed at it.

* `Statement.trace`: the operations of a history with the ways they end;
* `Statement.ofHistory`: a statement put together slot by slot;
* `Statement.Performs`: the operations that the calls of a builder perform;
* `run_is_history`: a history of operations leads to the statement put together from it, and two
  neighbouring operations that are aimed at different slots may change places.
-/

namespace SelectQuery

namespace Statement

/-! ## Slots -/

/-- The parts of a statement that operations are aimed at. -/
inductive Slot where
  | fields
  | joins
  | filter
  | groupBy
  | having
  | orderBy
  | distinct
  | top
  deriving DecidableEq, Repr

def Edit.slot : Edit → Slot
  | fields _ => .fields
  | groupBy _ => .groupBy
  | orderBy _ => .orderBy
  | filter _ => .filter
  | having _ => .having
  | distinct _ => .distinct
  | top _ => .top

def Op.slot : Op → Slot
  | edit e => e.slot
  | join _ => .joins

namespace Op

/-! What an operation has for each slot. -/

def fields : Op → List Field
  | edit (.fields fs) => fs
  | _ => []

def groupBy : Op → List Field
  | edit (.groupBy fs) => fs
  | _ => []

def orderBy : Op → List OrderItem
  | edit (.orderBy items) => items
  | _ => []

def filter? : Op → Option Predicate
  | edit (.filter p) => some p
  | _ => none

def having? : Op → Option Predicate
  | edit (.having p) => some p
  | _ => none

def distinct? : Op → Option Bool
  | edit (.distinct b) => some b
  | _ => none

def top? : Op → Option Top
  | edit (.top t) => some t
  | _ => none

end Op

/-! ## Traces -/

/-- The statement in use after an operation. -/
def after (s : Statement) (op : Op) : Statement := (s.apply op).toOption.getD s

/-- How an operation ends. -/
def outcome (s : Statement) (op : Op) : Except SelectError Unit := (s.apply op).map fun _ => ()

/-- The operations of a history, each with the way it ends. -/
def trace (s : Statement) : List Op → List (Op × Except SelectError Unit)
  | [] => []
  | op :: ops => (op, s.outcome op) :: trace (s.after op) ops

/-- The join of an operation that added one. -/
def addedJoin? : Op × Except SelectError Unit → Option Join
  | (.join j, .ok _) => some j
  | _ => none

variable {s t : Statement} {op : Op} {e : SelectError}

theorem after_of_ok (h : s.apply op = .ok t) : s.after op = t := by
  rw [after, h]
  rfl

theorem after_of_error (h : s.apply op = .error e) : s.after op = s := by
  rw [after, h]
  rfl

theorem outcome_of_ok (h : s.apply op = .ok t) : s.outcome op = .ok () := by
  rw [outcome, h]
  rfl

theorem outcome_of_error (h : s.apply op = .error e) : s.outcome op = .error e := by
  rw [outcome, h]
  rfl

theorem run_cons (s : Statement) (op : Op) (ops : List Op) :
    s.run (op :: ops) = (s.after op).run ops := rfl

theorem run_append (s : Statement) (ops more : List Op) :
    s.run (ops ++ more) = (s.run ops).run more :=
  List.foldl_append

theorem map_fst_trace (s : Statement) (ops : List Op) : (s.trace ops).map Prod.fst = ops := by
  induction ops generalizing s with
  | nil => rfl
  | cons op ops ih => rw [trace, List.map_cons, ih]

theorem trace_append (s : Statement) (ops more : List Op) :
    s.trace (ops ++ more) = s.trace ops ++ (s.run ops).trace more := by
  induction ops generalizing s with
  | nil => rfl
  | cons op ops ih => rw [List.cons_append, trace, trace, ih, run_cons, List.cons_append]

/-! ## Slot by slot -/

/-- Predicates conjoined from the left. -/
def conjunction : List Predicate → Option Predicate
  | [] => none
  | p :: ps => some (ps.foldl Predicate.and p)

theorem conjunction_concat (ps : List Predicate) (p : Predicate) :
    conjunction (ps ++ [p]) = conjoin (conjunction ps) p := by
  cases ps with
  | nil => rfl
  | cons q ps => simp [conjunction, conjoin]

/-- A statement from operations and from the joins that were added. -/
def ofHistory (root : Alias) (ops : List Op) (joins : List Join) : Statement where
  root := root
  aliases := ⟨root :: joins.map Join.joined⟩
  fields := ops.flatMap Op.fields
  joins := joins
  filter := conjunction (ops.filterMap Op.filter?)
  groupBy := ops.flatMap Op.groupBy
  having := conjunction (ops.filterMap Op.having?)
  orderBy := ops.flatMap Op.orderBy
  distinct := (ops.filterMap Op.distinct?).getLast?.getD false
  top := (ops.filterMap Op.top?).getLast?

/-- One more edit. -/
theorem edit_ofHistory (root : Alias) (ops : List Op) (joins : List Join) (e : Edit) :
    (ofHistory root ops joins).edit e = ofHistory root (ops ++ [.edit e]) joins := by
  cases e <;>
    simp [ofHistory, edit, Op.fields, Op.groupBy, Op.orderBy, Op.filter?, Op.having?,
      Op.distinct?, Op.top?, List.filterMap_cons, conjunction_concat]

/-- A join leaves the slots of the edits alone. -/
theorem ofHistory_concat_join (root : Alias) (ops : List Op) (joins : List Join) (j : Join) :
    ofHistory root (ops ++ [.join j]) joins = ofHistory root ops joins := by
  simp [ofHistory, Op.fields, Op.groupBy, Op.orderBy, Op.filter?, Op.having?, Op.distinct?,
    Op.top?, List.filterMap_cons]

theorem after_ofHistory (root : Alias) (ops : List Op) (joins : List Join) (op : Op) :
    (ofHistory root ops joins).after op =
      ofHistory root (ops ++ [op])
        (joins ++ (addedJoin? (op, (ofHistory root ops joins).outcome op)).toList) := by
  cases op with
  | edit e =>
    have h : addedJoin? (.edit e, (ofHistory root ops joins).outcome (.edit e)) = none := rfl
    rw [h, Option.toList_none, List.append_nil, ← edit_ofHistory]
    rfl
  | join j =>
    rw [ofHistory_concat_join]
    cases h : (ofHistory root ops joins).apply (.join j) with
    | error e =>
      rw [after_of_error h, outcome_of_error h]
      simp [addedJoin?]
    | ok t =>
      rw [after_of_ok h, outcome_of_ok h]
      obtain ⟨r, hr, rfl⟩ := join_eq_ok_iff.mp h
      obtain ⟨-, -, rfl⟩ := Registry.register_eq_ok_iff.mp hr
      simp [addedJoin?, ofHistory]

/-- **A statement is put together from its history.** -/
theorem run_ofRoot_eq (root : Alias) (ops : List Op) :
    (ofRoot root).run ops =
      ofHistory root ops (((ofRoot root).trace ops).filterMap addedJoin?) := by
  induction ops using List.reverseRecOn with
  | nil => rfl
  | append_singleton ops op ih =>
    have hr : (ofRoot root).run (ops ++ [op]) = ((ofRoot root).run ops).after op :=
      run_append _ ops [op]
    have ht : (ofRoot root).trace (ops ++ [op]) =
        (ofRoot root).trace ops ++ [(op, ((ofRoot root).run ops).outcome op)] :=
      trace_append _ ops [op]
    have hj : [(op, ((ofRoot root).run ops).outcome op)].filterMap addedJoin? =
        (addedJoin? (op, ((ofRoot root).run ops).outcome op)).toList := by
      rw [List.filterMap_cons]
      cases addedJoin? (op, ((ofRoot root).run ops).outcome op) <;> rfl
    rw [hr, ht, List.filterMap_append, hj, ih, after_ofHistory, ← ih]

/-! ## Changing places -/

/-- Edits of different slots commute. -/
theorem edit_edit_comm (s : Statement) {e e' : Edit} (h : e.slot ≠ e'.slot) :
    (s.edit e).edit e' = (s.edit e').edit e := by
  cases e <;> cases e' <;> first | rfl | exact absurd rfl h

/-- A join looks at the registry only, which no edit touches. -/
theorem apply_edit_join (s : Statement) (e : Edit) (j : Join) :
    (s.edit e).apply (.join j) = (s.apply (.join j)).map (·.edit e) := by
  show (s.edit e).join j = (s.join j).map (·.edit e)
  unfold join
  rw [aliases_edit, joins_edit]
  cases s.aliases.register j.joined with
  | error f => rfl
  | ok r => cases e <;> rfl

theorem after_edit_join (s : Statement) (e : Edit) (j : Join) :
    (s.edit e).after (.join j) = (s.after (.join j)).edit e := by
  have he := s.apply_edit_join e j
  cases h : s.apply (.join j) with
  | error f =>
    rw [h] at he
    rw [after_of_error he, after_of_error h]
  | ok t =>
    rw [h] at he
    rw [after_of_ok he, after_of_ok h]

theorem outcome_edit_join (s : Statement) (e : Edit) (j : Join) :
    (s.edit e).outcome (.join j) = s.outcome (.join j) := by
  rw [outcome, outcome, apply_edit_join]
  cases s.apply (.join j) <;> rfl

/-- **Operations aimed at different slots commute.** -/
theorem after_after_comm (s : Statement) {a b : Op} (h : a.slot ≠ b.slot) :
    (s.after a).after b = (s.after b).after a := by
  cases a with
  | edit e =>
    cases b with
    | edit e' => exact s.edit_edit_comm h
    | join j => exact s.after_edit_join e j
  | join j =>
    cases b with
    | edit e => exact (s.after_edit_join e j).symm
    | join k => exact absurd rfl h

/-- How an operation ends does not depend on the other slots. -/
theorem outcome_after (s : Statement) {a b : Op} (h : a.slot ≠ b.slot) :
    (s.after a).outcome b = s.outcome b := by
  cases b with
  | edit e => rfl
  | join j =>
    cases a with
    | edit e => exact s.outcome_edit_join e j
    | join k => exact absurd rfl h

/-- Two neighbours of a history may change places: the statement, its renderings and the ways the
operations end stay the same. -/
structure Swappable (s : Statement) (before : List Op) (a b : Op) (rest : List Op) : Prop where
  run_eq : s.run (before ++ a :: b :: rest) = s.run (before ++ b :: a :: rest)
  render_eq : ∀ l, (s.run (before ++ a :: b :: rest)).render l =
    (s.run (before ++ b :: a :: rest)).render l
  trace_eq : ∃ t x y u, t.map Prod.fst = before ∧
    s.trace (before ++ a :: b :: rest) = t ++ (a, x) :: (b, y) :: u ∧
    s.trace (before ++ b :: a :: rest) = t ++ (b, y) :: (a, x) :: u

theorem swappable_of_slot_ne (s : Statement) (before : List Op) {a b : Op} (rest : List Op)
    (h : a.slot ≠ b.slot) : s.Swappable before a b rest := by
  have hc := (s.run before).after_after_comm h
  have hb : ((s.run before).after a).outcome b = (s.run before).outcome b :=
    (s.run before).outcome_after h
  have ha : ((s.run before).after b).outcome a = (s.run before).outcome a :=
    (s.run before).outcome_after h.symm
  have hr : s.run (before ++ a :: b :: rest) = s.run (before ++ b :: a :: rest) := by
    rw [run_append, run_append, run_cons, run_cons, run_cons, run_cons, hc]
  constructor
  case run_eq => exact hr
  case render_eq =>
    intro l
    rw [hr]
  case trace_eq =>
    refine ⟨s.trace before, (s.run before).outcome a, (s.run before).outcome b,
      (((s.run before).after a).after b).trace rest, s.map_fst_trace before, ?_, ?_⟩
    · rw [trace_append, trace, trace, hb]
    · rw [trace_append, trace, trace, ha, hc]

/-! ## Calls of the builder -/

def Call.slot : Call → Slot
  | edit e => e.slot
  | addMember .. | addMemberOf .. => .fields
  | groupByMember .. => .groupBy
  | orderByMember .. => .orderBy
  | joinEqual .. | joinOn .. | crossJoin _ => .joins

theorem Call.Makes.slot_eq {c : Call} {op : Op} (hm : c.Makes s op) : op.slot = c.slot := by
  cases hm <;> rfl

/-- The operations that calls perform: one for each call that succeeds, none for one that fails. -/
inductive Performs : Statement → Provider → List Call → List Op → Prop
  | nil (s : Statement) (p : Provider) : Performs s p [] []
  | done {s t : Statement} {p p' : Provider} {c : Call} {cs : List Call} {op : Op} {ops : List Op}
      (h : (s.call c).runWith p = (.ok t, p')) (hm : c.Makes s op) (hop : s.apply op = .ok t)
      (rest : Performs t p' cs ops) : Performs s p (c :: cs) (op :: ops)
  | failed {s : Statement} {p p' : Provider} {c : Call} {cs : List Call} {ops : List Op}
      {e : SelectError} (h : (s.call c).runWith p = (.error e, p'))
      (rest : Performs s p' cs ops) : Performs s p (c :: cs) ops

theorem exists_performs (s : Statement) (p : Provider) (cs : List Call) :
    ∃ ops, Performs s p cs ops := by
  induction cs generalizing s p with
  | nil => exact ⟨[], .nil s p⟩
  | cons c cs ih =>
    cases h : (s.call c).runWith p with
    | mk r p' =>
      cases r with
      | ok t =>
        obtain ⟨op, hm, hop⟩ := exists_op_of_call h
        obtain ⟨ops, rest⟩ := ih t p'
        exact ⟨op :: ops, .done h hm hop rest⟩
      | error e =>
        obtain ⟨ops, rest⟩ := ih s p'
        exact ⟨ops, .failed h rest⟩

namespace Performs

variable {s : Statement} {p : Provider} {cs : List Call} {ops : List Op}

/-- **A run of the builder is a history** of the operations it performs. -/
theorem runCalls_eq (h : Performs s p cs ops) : (s.runCalls p cs).1 = s.run ops := by
  induction h with
  | nil => rfl
  | done h _ hop _ ih => rw [Statement.runCalls, h, run_cons, after_of_ok hop, ih]
  | failed h _ ih => rw [Statement.runCalls, h, ih]

theorem outcome_eq_ok (h : Performs s p cs ops) : ∀ o ∈ s.trace ops, o.2 = .ok () := by
  induction h with
  | nil => exact nofun
  | done _ _ hop _ ih =>
    rw [trace, after_of_ok hop, List.forall_mem_cons]
    exact ⟨outcome_of_ok hop, ih⟩
  | failed _ _ ih => exact ih

theorem slots_sublist (h : Performs s p cs ops) :
    (ops.map Op.slot).Sublist (cs.map Call.slot) := by
  induction h with
  | nil => exact List.Sublist.refl _
  | done _ hm _ _ ih =>
    rw [List.map_cons, List.map_cons, hm.slot_eq]
    exact ih.cons_cons _
  | failed _ _ ih => exact ih.cons _

end Performs

end Statement

open Statement in
/-- **A statement is the history of its slots.** Lists are what the calls added, one after the
other; a predicate is absent or the conjunction of those given, grouped to the left; a modifier is
the last one set; the joins are those that succeeded. So neighbours that are aimed at different
slots may change places. A run of the builder is such a history, too, of what its successful calls
perform, each in the slot it is aimed at. -/
theorem run_is_history (root : Alias) :
    (∀ ops, (ofRoot root).run ops =
        ofHistory root ops (((ofRoot root).trace ops).filterMap addedJoin?) ∧
      ((ofRoot root).trace ops).map Prod.fst = ops) ∧
    (∀ before a b rest, a.slot ≠ b.slot → (ofRoot root).Swappable before a b rest) ∧
    ∀ p cs, ∃ ops, Performs (ofRoot root) p cs ops ∧
      ((ofRoot root).runCalls p cs).1 = (ofRoot root).run ops ∧
      (∀ o ∈ (ofRoot root).trace ops, o.2 = .ok ()) ∧
      (ops.map Op.slot).Sublist (cs.map Call.slot) := by
  refine ⟨fun ops => ⟨run_ofRoot_eq root ops, map_fst_trace _ ops⟩, ?_, ?_⟩
  · intro before a b rest h
    exact swappable_of_slot_ne _ before rest h
  · intro p cs
    obtain ⟨ops, h⟩ := exists_performs (ofRoot root) p cs
    exact ⟨ops, h, h.runCalls_eq, h.outcome_eq_ok, h.slots_sublist⟩

open Statement in
/-- Of two joins on one alias the second fails, and the neighbour it changes places with does not
matter. -/
theorem run_is_history_joined_twice :
    (ofRoot .people).run [.join (.crossing .passports), .join (.crossing .passports),
        .edit (.distinct true), .edit (.distinct false)] =
      { ofRoot .people with
        aliases := ⟨[.people, .passports]⟩
        joins := [.crossing .passports] } ∧
    Op.slot (.join (.crossing .passports)) ≠ Op.slot (.edit (.distinct true)) ∧
    (ofRoot .people).Swappable [.join (.crossing .passports)] (.join (.crossing .passports))
      (.edit (.distinct true)) [.edit (.distinct false)] := by
  obtain ⟨hr, hs, -⟩ := run_is_history .people
  have hne : Op.slot (.join (.crossing .passports)) ≠ Op.slot (.edit (.distinct true)) := by decide
  refine ⟨?_, hne, hs _ _ _ _ hne⟩
  rw [(hr _).1]
  rfl

end SelectQuery
