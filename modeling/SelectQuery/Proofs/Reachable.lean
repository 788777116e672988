import Mathlib.Data.List.Nodup
import SelectQuery.Statement.Builder

/-!
# Reachable statements

A statement is reachable if operations lead to it from the statement of some root.

* `Call.Makes`, `exists_op_of_call`: a call that succeeds makes one operation;
* `run_induction` and `runCalls_induction`: what each step keeps, histories of operations and runs
  of the builder keep, so they stay among the reachable statements;
* `Reachable.registered`: the registry of a reachable statement holds the root and the joined
  aliases, in this order, and no value twice.
-/

namespace SelectQuery

/-- Registering an alias keeps the values apart. -/
theorem Registry.nodup_of_register {r s : Registry} {a : Alias}
    (hr : (r.aliases.map Alias.value).Nodup) (h : r.register a = .ok s) :
    (s.aliases.map Alias.value).Nodup := by
  obtain ⟨_, hfree, rfl⟩ := register_eq_ok_iff.mp h
  rw [List.map_append, List.map_singleton, List.nodup_append]
  refine ⟨hr, List.nodup_singleton _, ?_⟩
  intro v hv w hw e
  rw [List.mem_singleton.mp hw] at e
  exact hfree (e ▸ hv)

namespace Statement

inductive Reachable : Statement → Prop
  | ofRoot (root : Alias) : Reachable (ofRoot root)
  | step {s t : Statement} {op : Op} (hs : Reachable s) (h : s.apply op = .ok t) : Reachable t

/-! ## Calls -/

/-- The operation that a call makes on a statement if it succeeds, with some provider at hand. -/
inductive Call.Makes (s : Statement) : Call → Op → Prop
  | edit (e : Edit) : Makes s (.edit e) (.edit e)
  | addMember {m : String} {v : ValueType} {f : Field} {p q : Provider}
      (h : (s.rootField m v).runWith p = (.ok f, q)) :
      Makes s (.addMember m v) (.edit (.fields [f]))
  | addMemberOf {m : MemberRef} {a : Alias} {f : Field} {p q : Provider}
      (h : (Field.ofMember m a).runWith p = (.ok f, q)) :
      Makes s (.addMemberOf m a) (.edit (.fields [f]))
  | groupByMember {m : String} {v : ValueType} {f : Field} {p q : Provider}
      (h : (s.rootField m v).runWith p = (.ok f, q)) :
      Makes s (.groupByMember m v) (.edit (.groupBy [f]))
  | orderByMember {m : String} {v : ValueType} {d : Option SortDirection} {f : Field}
      {p q : Provider} (h : (s.rootField m v).runWith p = (.ok f, q)) :
      Makes s (.orderByMember m v d) (.edit (.orderBy [⟨f, d⟩]))
  | joinEqual {k : JoinKind} {e : BinaryExpr} {left joined : Alias} {j : Join} {p q : Provider}
      (h : (Join.ofEquality k e left joined).runWith p = (.ok j, q)) :
      Makes s (.joinEqual k e left joined) (.join j)
  | joinOn {k : JoinKind} {c : Predicate} {joined : Alias} {j : Join}
      (h : Join.withCondition k joined c = .ok j) : Makes s (.joinOn k c joined) (.join j)
  | crossJoin (joined : Alias) : Makes s (.crossJoin joined) (.join (.crossing joined))

/-- Resolving a field for an edit leads to the edited statement. -/
theorem edit_of_runWith_eq_ok {s t : Statement} {x : Resolving Field} {e : Field → Edit}
    {p p' : Provider}
    (h : (do return s.edit (e (← x)) : Resolving Statement).runWith p = (.ok t, p')) :
    ∃ f q, x.runWith p = (.ok f, q) ∧ t = s.edit (e f) := by
  obtain ⟨f, q, hx, h⟩ := Resolving.runWith_bind_eq_ok_iff.mp h
  rw [Resolving.runWith_pure] at h
  exact ⟨f, q, hx, (Except.ok.inj (Prod.mk.inj h).1).symm⟩

/-- **A call that succeeds makes one operation on the statement.** -/
theorem exists_op_of_call {s t : Statement} {c : Call} {p p' : Provider}
    (h : (s.call c).runWith p = (.ok t, p')) : ∃ op, c.Makes s op ∧ s.apply op = .ok t := by
  cases c with
  | edit e =>
    obtain rfl := Except.ok.inj (Prod.mk.inj h).1
    exact ⟨.edit e, .edit e, rfl⟩
  | addMember m v =>
    obtain ⟨f, q, hf, rfl⟩ := edit_of_runWith_eq_ok h
    exact ⟨_, .addMember hf, rfl⟩
  | addMemberOf m a =>
    obtain ⟨f, q, hf, rfl⟩ := edit_of_runWith_eq_ok h
    exact ⟨_, .addMemberOf hf, rfl⟩
  | groupByMember m v =>
    obtain ⟨f, q, hf, rfl⟩ := edit_of_runWith_eq_ok h
    exact ⟨_, .groupByMember hf, rfl⟩
  | orderByMember m v d =>
    obtain ⟨f, q, hf, rfl⟩ := edit_of_runWith_eq_ok (e := fun f => .orderBy [⟨f, d⟩]) h
    exact ⟨_, .orderByMember hf, rfl⟩
  | joinEqual kind e left joined =>
    obtain ⟨_, _, _, h⟩ := Resolving.runWith_bind_eq_ok_iff.mp h
    obtain ⟨j, _, hj, h⟩ := Resolving.runWith_bind_eq_ok_iff.mp h
    rw [Resolving.runWith_lift] at h
    exact ⟨.join j, .joinEqual hj, (Prod.mk.inj h).1⟩
  | joinOn kind condition joined =>
    obtain ⟨_, _, _, h⟩ := Resolving.runWith_bind_eq_ok_iff.mp h
    obtain ⟨j, _, hj, h⟩ := Resolving.runWith_bind_eq_ok_iff.mp h
    rw [Resolving.runWith_lift] at h hj
    exact ⟨.join j, .joinOn (Prod.mk.inj hj).1, (Prod.mk.inj h).1⟩
  | crossJoin joined => exact ⟨_, .crossJoin joined, (Prod.mk.inj h).1⟩

/-! ## Runs -/

/-- What every operation of a history keeps, the history keeps. -/
theorem run_induction {P : Statement → Prop} {s : Statement} (hs : P s) {ops : List Op}
    (hop : ∀ op ∈ ops, ∀ {s t : Statement}, P s → s.apply op = .ok t → P t) : P (s.run ops) := by
  induction ops generalizing s with
  | nil => exact hs
  | cons op ops ih =>
    have hops : ∀ o ∈ ops, ∀ {s t : Statement}, P s → s.apply o = .ok t → P t := fun o ho =>
      hop o (List.mem_cons_of_mem _ ho)
    rw [run, List.foldl_cons]
    cases h : s.apply op with
    | error e => exact ih hs hops
    | ok t => exact ih (hop op (List.mem_cons_self ..) hs h) hops

/-- What every call of a run keeps, the run keeps. -/
theorem runCalls_induction {P : Statement → Prop} {s : Statement} (hs : P s) (p : Provider)
    {cs : List Call} (hcall : ∀ c ∈ cs, ∀ {s t : Statement} {p q : Provider}, P s →
      (s.call c).runWith p = (.ok t, q) → P t) : P (s.runCalls p cs).1 := by
  induction cs generalizing s p with
  | nil => exact hs
  | cons c cs ih =>
    have hcalls : ∀ d ∈ cs, ∀ {s t : Statement} {p q : Provider}, P s →
        (s.call d).runWith p = (.ok t, q) → P t := fun d hd => hcall d (List.mem_cons_of_mem _ hd)
    rw [runCalls]
    split
    · next t q h => exact ih (hcall c (List.mem_cons_self ..) hs h) q hcalls
    · next e q h => exact ih hs q hcalls

namespace Reachable

variable {s : Statement}

theorem edit (hs : s.Reachable) (e : Edit) : (s.edit e).Reachable := by
  have h : s.apply (.edit e) = .ok (s.edit e) := rfl
  exact hs.step h

theorem run (hs : s.Reachable) (ops : List Op) : (s.run ops).Reachable :=
  run_induction hs fun _ _ => step

theorem call {t : Statement} {c : Call} {p q : Provider} (hs : s.Reachable)
    (h : (s.call c).runWith p = (.ok t, q)) : t.Reachable := by
  obtain ⟨op, -, hop⟩ := exists_op_of_call h
  exact hs.step hop

theorem runCalls (hs : s.Reachable) (p : Provider) (cs : List Call) :
    (s.runCalls p cs).1.Reachable :=
  runCalls_induction hs p fun _ _ => call

end Reachable

/-! ## The registry -/

@[simp]
theorem root_edit (s : Statement) (e : Edit) : (s.edit e).root = s.root := by
  cases e <;> rfl

@[simp]
theorem aliases_edit (s : Statement) (e : Edit) : (s.edit e).aliases = s.aliases := by
  cases e <;> rfl

@[simp]
theorem joins_edit (s : Statement) (e : Edit) : (s.edit e).joins = s.joins := by
  cases e <;> rfl

/-- The registry keeps up with the joins. -/
structure Registered (s : Statement) : Prop where
  aliases_eq : s.aliases.aliases = s.root :: s.joins.map Join.joined
  nodup_values : (s.aliases.aliases.map Alias.value).Nodup

theorem registered_ofRoot (root : Alias) : (ofRoot root).Registered :=
  ⟨rfl, List.nodup_singleton _⟩

theorem Registered.apply {s t : Statement} {op : Op} (hs : s.Registered)
    (h : s.apply op = .ok t) : t.Registered := by
  cases op with
  | edit e =>
    obtain rfl := Except.ok.inj h
    exact ⟨by simpa using hs.aliases_eq, by simpa using hs.nodup_values⟩
  | join j =>
    obtain ⟨r, hr, rfl⟩ := join_eq_ok_iff.mp h
    have hn := Registry.nodup_of_register hs.nodup_values hr
    obtain ⟨_, _, rfl⟩ := Registry.register_eq_ok_iff.mp hr
    exact ⟨by simp [hs.aliases_eq], hn⟩

theorem Reachable.registered {s : Statement} (hs : s.Reachable) : s.Registered := by
  induction hs with
  | ofRoot root => exact registered_ofRoot root
  | step _ h ih => exact ih.apply h

end Statement

end SelectQuery
