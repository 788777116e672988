import SelectQuery.Proofs.Joins
import SelectQuery.Proofs.Scope

/-!
# The registry of a statement

Joins register their aliases one by one. What is registered in the end can be said without the
registry.

* `Registry.aliases_registerAll`: a chain of registrations takes in the aliases that have a name, in
  their order, and of several with one value the first;
* `Statement.Built`: the statements that operations lead to, with joins that can be made;
* `registry_mirrors_joins`: in such a statement the registry repeats the root and the joins, no
  value comes twice, and the root and the joins decide which alias a join can still have.
-/

namespace SelectQuery

/-! ## Chains of registrations -/

namespace Registry

variable {r : Registry} {a : Alias}

/-- A chain of registrations. One that fails leaves the registry as it is. -/
def registerAll (r : Registry) (as : List Alias) : Registry :=
  as.foldl (fun r a => (r.register a).toOption.getD r) r

/-- Whether an alias has a name, and one that is not taken. -/
def isOpenTo (r : Registry) (a : Alias) : Bool :=
  !a.isBlank && !r.containsValue a.value

theorem isOpenTo_iff :
    r.isOpenTo a = true ↔ a.isBlank = false ∧ a.value ∉ r.aliases.map Alias.value := by
  rw [isOpenTo, Bool.and_eq_true, Bool.not_eq_true', Bool.not_eq_true', ← containsValue_iff,
    Bool.not_eq_true]

theorem register_of_isOpenTo (h : r.isOpenTo a = true) :
    r.register a = .ok ⟨r.aliases ++ [a]⟩ := by
  obtain ⟨hb, hv⟩ := isOpenTo_iff.mp h
  exact register_eq_ok_iff.mpr ⟨hb, hv, rfl⟩

theorem toOption_register_of_not_isOpenTo (h : ¬ r.isOpenTo a = true) :
    (r.register a).toOption = none := by
  cases hr : r.register a with
  | error e => rfl
  | ok s =>
    obtain ⟨hb, hv, -⟩ := register_eq_ok_iff.mp hr
    exact absurd (isOpenTo_iff.mpr ⟨hb, hv⟩) h

theorem registerAll_cons (r : Registry) (a : Alias) (as : List Alias) :
    r.registerAll (a :: as) =
      if r.isOpenTo a then registerAll ⟨r.aliases ++ [a]⟩ as else r.registerAll as := by
  rw [registerAll, List.foldl_cons]
  by_cases h : r.isOpenTo a = true
  · rw [if_pos h, register_of_isOpenTo h]
    rfl
  · rw [if_neg h, toOption_register_of_not_isOpenTo h]
    rfl

/-- Once an alias is taken in, those with its value are shut out. -/
theorem filter_isOpenTo_append (r : Registry) (a : Alias) (as : List Alias) :
    as.filter (isOpenTo ⟨r.aliases ++ [a]⟩) =
      (as.filter r.isOpenTo).filter fun b => (b.value == a.value) = false := by
  rw [List.filter_filter]
  apply List.filter_congr
  intro b _
  have hv : (isOpenTo ⟨r.aliases ++ [a]⟩ b = true) ↔
      ¬ b.value = a.value ∧ r.isOpenTo b = true := by
    simp only [isOpenTo_iff, List.map_append, List.map_singleton, List.mem_append,
      List.mem_singleton]
    tauto
  rw [Bool.eq_iff_iff, hv]
  simp

/-- **A chain of registrations** takes in every alias with a name of its own, in the order of the
calls; of several with one value it is the first. -/
theorem aliases_registerAll (r : Registry) (as : List Alias) :
    (r.registerAll as).aliases =
      r.aliases ++ (as.filter r.isOpenTo).eraseDupsBy (fun a b => a.value == b.value) := by
  induction as generalizing r with
  | nil => simp [registerAll]
  | cons a as ih =>
    rw [registerAll_cons, List.filter_cons]
    by_cases h : r.isOpenTo a = true
    · rw [if_pos h, if_pos h, ih, filter_isOpenTo_append, List.eraseDupsBy_cons]
      simp
    · rw [if_neg h, if_neg h, ih]

theorem nodup_registerAll (hr : (r.aliases.map Alias.value).Nodup) (as : List Alias) :
    ((r.registerAll as).aliases.map Alias.value).Nodup := by
  induction as generalizing r with
  | nil => exact hr
  | cons a as ih =>
    rw [registerAll_cons]
    by_cases h : r.isOpenTo a = true
    · rw [if_pos h]
      exact ih (nodup_of_register hr (register_of_isOpenTo h))
    · rw [if_neg h]
      exact ih hr

end Registry

/-! ## Statements that can be built -/

namespace Statement

/-- An operation whose join, if it adds one, can be made. -/
inductive Op.Made : Op → Prop
  | edit (e : Edit) : Made (.edit e)
  | join {j : Join} (hj : j.Made) : Made (.join j)

theorem Call.Makes.made {s : Statement} {c : Call} {op : Op} (hm : c.Makes s op) : op.Made := by
  cases hm with
  | edit | addMember | addMemberOf | groupByMember | orderByMember => exact .edit _
  | joinEqual hj => exact .join (Join.made_of_ofEquality hj)
  | joinOn hj => exact .join (.withCondition hj)
  | crossJoin joined => exact .join (.crossing joined)

/-- A statement that operations lead to from the statement of some root. -/
inductive Built : Statement → Prop
  | ofRoot (root : Alias) : Built (ofRoot root)
  | step {s t : Statement} {op : Op} (hs : Built s) (hop : op.Made) (h : s.apply op = .ok t) :
      Built t

namespace Built

variable {s : Statement}

theorem reachable (hs : s.Built) : s.Reachable := by
  induction hs with
  | ofRoot root => exact .ofRoot root
  | step _ _ h ih => exact ih.step h

/-- Histories of operations stay among the statements that are built. -/
theorem run (hs : s.Built) {ops : List Op} (hops : ∀ op ∈ ops, op.Made) : (s.run ops).Built :=
  run_induction hs fun op hop => fun hs h => hs.step (hops op hop) h

/-- So do runs of the builder, whatever its calls. -/
theorem runCalls (hs : s.Built) (p : Provider) (cs : List Call) : (s.runCalls p cs).1.Built := by
  apply runCalls_induction hs p
  intro c _ s t p q hs h
  obtain ⟨op, hm, hop⟩ := exists_op_of_call h
  exact hs.step hm.made hop

end Built

/-- What holds between the registry, the root and the joins of a statement. -/
structure Mirrored (s : Statement) : Prop where
  aliases_eq : s.aliases.aliases = s.root :: s.joins.map Join.joined
  nodup_values : (s.aliases.aliases.map Alias.value).Nodup
  /-- A value names one entity at most. -/
  entity_eq : ∀ a ∈ s.aliases.aliases, ∀ b ∈ s.aliases.aliases,
    a.value = b.value → a.entity = b.entity
  named : ∀ j ∈ s.joins, j.joined.isBlank = false
  conditioned : ∀ j ∈ s.joins, (j.condition = none ↔ j.kind = .cross)

/-- What each operation keeps of the joins. -/
theorem joins_of_apply {s t : Statement} {op : Op} (h : s.apply op = .ok t) {j : Join}
    (hj : j ∈ t.joins) : j ∈ s.joins ∨ op = .join j ∧ j.joined.isBlank = false := by
  cases op with
  | edit e =>
    obtain rfl := Except.ok.inj h
    rw [joins_edit] at hj
    exact Or.inl hj
  | join k =>
    obtain ⟨r, hr, rfl⟩ := join_eq_ok_iff.mp h
    obtain ⟨hb, -, -⟩ := Registry.register_eq_ok_iff.mp hr
    rcases List.mem_append.mp hj with hj | hj
    · exact Or.inl hj
    · obtain rfl := List.mem_singleton.mp hj
      exact Or.inr ⟨rfl, hb⟩

theorem Built.of_mem_joins {s : Statement} (hs : s.Built) {j : Join} (hj : j ∈ s.joins) :
    j.Made ∧ j.joined.isBlank = false := by
  induction hs with
  | ofRoot root => cases hj
  | step _ hop h ih =>
    rcases joins_of_apply h hj with hj | ⟨rfl, hb⟩
    · exact ih hj
    · cases hop with
      | join hm => exact ⟨hm, hb⟩

theorem Built.mirrored {s : Statement} (hs : s.Built) : s.Mirrored := by
  have hr := hs.reachable.registered
  constructor
  case aliases_eq => exact hr.aliases_eq
  case nodup_values => exact hr.nodup_values
  case entity_eq =>
    intro a ha b hb h
    have hab : a = b := List.inj_on_of_nodup_map hr.nodup_values ha hb h
    rw [hab]
  case named => exact fun j hj => (hs.of_mem_joins hj).2
  case conditioned => exact fun j hj => (hs.of_mem_joins hj).1.condition_eq_none_iff

/-! ## Which alias a join can have -/

/-- What asking for an alias comes to, as the root and the joins decide it. -/
def verdict (s : Statement) (a : Alias) : Except SelectError Unit :=
  if a.isBlank then .error (.invalidState a.value a.entity.name "join: alias value is empty")
  else if ∃ b ∈ s.root :: s.joins.map Join.joined, b.value = a.value then
    .error (.duplicateAlias a.value)
  else .ok ()

theorem Registered.ensureFree_eq {s : Statement} (hs : s.Registered) (a : Alias) :
    s.ensureFree a = s.verdict a := by
  have hv : s.aliases.containsValue a.value = true ↔
      ∃ b ∈ s.root :: s.joins.map Join.joined, b.value = a.value := by
    rw [Registry.containsValue_iff, hs.aliases_eq, List.mem_map]
  unfold ensureFree verdict Registry.register
  by_cases hb : a.isBlank
  · rw [if_pos hb, if_pos hb]
    rfl
  · by_cases ht : s.aliases.containsValue a.value = true
    · rw [if_neg hb, if_neg hb, if_pos ht, if_pos (hv.mp ht)]
      rfl
    · rw [if_neg hb, if_neg hb, if_neg ht, if_neg (fun h => ht (hv.mpr h))]
      rfl

/-- A join fails just as asking for its alias does. -/
theorem map_join_eq (s : Statement) (j : Join) :
    (s.join j).map (fun _ => ()) = s.ensureFree j.joined := by
  unfold join ensureFree
  cases s.aliases.register j.joined <;> rfl

end Statement

/-- **The registry repeats the root and the joins**, whatever operations were made and whatever the
builder is called for next. Asking for an alias and joining on it fail alike: a blank alias is
refused even if its value is taken, and a taken value even for another entity. Chains of
registrations keep the values apart and in order, too. -/
theorem registry_mirrors_joins {s : Statement} (hs : s.Built) :
    s.Mirrored ∧
    (∀ p cs, (s.runCalls p cs).1.Built ∧ (s.runCalls p cs).1.Mirrored) ∧
    (∀ a, s.ensureFree a = s.verdict a ∧
      ∀ j : Join, j.joined = a → (s.join j).map (fun _ => ()) = s.verdict a) ∧
    ∀ (r : Registry) (as : List Alias), r.aliases.length ≤ 1 →
      ((r.registerAll as).aliases.map Alias.value).Nodup ∧
      (r.registerAll as).aliases =
        r.aliases ++ (as.filter r.isOpenTo).eraseDupsBy (fun a b => a.value == b.value) := by
  have hfree := hs.reachable.registered.ensureFree_eq
  refine ⟨hs.mirrored, fun p cs => ⟨hs.runCalls p cs, (hs.runCalls p cs).mirrored⟩,
    fun a => ⟨hfree a, ?_⟩, fun r as hr => ⟨?_, r.aliases_registerAll as⟩⟩
  · rintro j rfl
    rw [Statement.map_join_eq, hfree]
  · have hn : (r.aliases.map Alias.value).Nodup := by
      match hl : r.aliases with
      | [] => exact List.nodup_nil
      | [a] => exact List.nodup_singleton _
      | _ :: _ :: _ => simp [hl] at hr
    exact Registry.nodup_registerAll hn as

/-- People without a name, next to all passports. -/
def Statement.unnamed : Statement :=
  (ofRoot ⟨Alias.people.entity, ""⟩).run [.join (.crossing .passports)]

/-- The blank value of the root is taken, but it is refused for being blank. -/
theorem registry_mirrors_joins_unnamed :
    Statement.unnamed.aliases.aliases.map Alias.value = ["", "pa"] ∧
    Statement.unnamed.Mirrored ∧
    (∀ p, (Statement.unnamed.runCalls p [.crossJoin .passports, .crossJoin .people]).1.Mirrored) ∧
    Statement.unnamed.ensureFree ⟨Alias.passports.entity, ""⟩ =
      .error (.invalidState "" "Passport" "join: alias value is empty") ∧
    Statement.unnamed.ensureFree ⟨Alias.people.entity, "pa"⟩ = .error (.duplicateAlias "pa") ∧
    (Statement.unnamed.join (.crossing .people)).map (fun _ => ()) = .ok () ∧
    ((Registry.withRoot .people).registerAll [.passports, ⟨Alias.people.entity, "pa"⟩]).aliases =
      [.people, .passports] := by
  have hops : ∀ op ∈ [Statement.Op.join (.crossing .passports)], op.Made := by
    intro op hop
    rw [List.mem_singleton.mp hop]
    exact .join (.crossing _)
  have hs : Statement.unnamed.Built := (Statement.Built.ofRoot _).run hops
  obtain ⟨hm, hruns, hv, hr⟩ := registry_mirrors_joins hs
  have hj := (hv .people).2 (.crossing .people) rfl
  have hc := (hr (.withRoot .people) [.passports, ⟨Alias.people.entity, "pa"⟩] (by decide)).2
  refine ⟨by decide +kernel, hm, fun p => (hruns p _).2, ?_, ?_, ?_, ?_⟩
  · rw [(hv _).1]
    decide +kernel
  · rw [(hv _).1]
    decide +kernel
  · rw [hj]
    decide +kernel
  · rw [hc]
    decide +kernel

end SelectQuery
