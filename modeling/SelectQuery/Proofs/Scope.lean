import SelectQuery.Proofs.Draft.Render
import SelectQuery.Proofs.Reachable
import SelectQuery.Proofs.References

/-!
# The scope of a statement

Validation is a list of checks that are made one after the other.

* `Statement.checks`, `Statement.validate_eq_forM`: the checks, in their order;
* `Statement.WellScoped`: what a statement has to fulfil, said without validation;
* `renders_iff_wellScoped`: just the well-scoped statements render, and for any other one the first
  check that fails is reported.

The checks ask the registry, while `WellScoped` speaks of the root and the joins. For reachable
statements these are the same (`Check.passes_iff_holds`).
-/

namespace SelectQuery

/-! ## Checks -/

/-- One thing that is checked of a statement. -/
inductive Check where
  /-- The root has a name. -/
  | root
  /-- A field in a clause sits on an alias of the statement. -/
  | field (c : Statement.Clause) (f : Field)
  /-- The condition of a join has a field on the alias that is joined. -/
  | joined (j : Join) (condition : Predicate)

namespace Statement

def joinChecks (j : Join) : List Check :=
  match j.condition with
  | none => []
  | some p => p.fields.map (.field .joinCondition) ++ [.joined j p]

/-- All checks, in the order in which they are made. -/
def checks (s : Statement) : List Check :=
  .root :: (s.fields.map (.field .selectList) ++ (s.joins.flatMap joinChecks ++
    ((fieldsOf s.filter).map (.field .filter) ++ (s.groupBy.map (.field .groupBy) ++
      ((fieldsOf s.having).map (.field .having) ++
        (s.orderBy.map OrderItem.field).map (.field .orderBy))))))

/-- The alias is that of the root or of a join. -/
def Declares (s : Statement) (a : Alias) : Prop :=
  a = s.root ∨ ∃ j ∈ s.joins, a = j.joined

theorem declares_iff_mem {s : Statement} {a : Alias} :
    s.Declares a ↔ a ∈ s.root :: s.joins.map Join.joined := by
  rw [List.mem_cons, List.mem_map]
  simp only [Declares, eq_comm (a := a)]

end Statement

namespace Check

def field? : Check → Option Field
  | field _ f => some f
  | _ => none

/-- What a check demands. -/
def Holds (s : Statement) : Check → Prop
  | root => s.root.isBlank = false
  | field _ f => s.Declares f.qualifier
  | joined j p => ∃ f ∈ p.fields, f.qualifier = j.joined

/-- What a check that fails reports. -/
def fault (s : Statement) : Check → SelectError
  | root => .invalidState s.root.value s.root.entity.name "FROM: alias value is empty"
  | field c f =>
    .invalidState f.qualifier.value f.qualifier.entity.name (c.text ++ " references " ++ f.text)
  | joined j _ =>
    .invalidState j.joined.value j.joined.entity.name
      (j.kind.text ++ " condition never references the joined alias")

/-- A check as it is made, on the registry. -/
def passes (s : Statement) : Check → Bool
  | root => !s.root.isBlank
  | field _ f => s.aliases.contains f.qualifier
  | joined j p => p.references j.joined

def run (s : Statement) (c : Check) : Except SelectError Unit :=
  if c.passes s then .ok () else .error (c.fault s)

end Check

namespace Statement

/-! ## Validation makes the checks -/

/-- The fault of a check that fails. -/
def fault? (s : Statement) (c : Check) : Option SelectError :=
  if c.passes s then none else some (c.fault s)

theorem fieldFaults_eq (s : Statement) (c : Clause) (fs : List Field) :
    s.fieldFaults c fs = (fs.map (Check.field c)).filterMap s.fault? := by
  rw [fieldFaults, List.filterMap_map]
  rfl

theorem joinFaults_eq (s : Statement) (j : Join) :
    s.joinFaults j = (joinChecks j).filterMap s.fault? := by
  unfold joinFaults joinChecks
  cases j.condition with
  | none => rfl
  | some p =>
    simp only [List.filterMap_append, ← fieldFaults_eq]
    congr 1
    by_cases h : p.references j.joined <;>
      simp [fault?, Check.passes, h, Check.fault, Alias.missing]

theorem rootFaults_eq (s : Statement) : s.rootFaults = [Check.root].filterMap s.fault? := by
  by_cases h : s.root.isBlank <;>
    simp [rootFaults, fault?, Check.passes, h, Check.fault, Alias.blank, Alias.missing]

theorem faults_eq (s : Statement) : s.faults = s.checks.filterMap s.fault? := by
  have hj : s.joins.flatMap s.joinFaults = (s.joins.flatMap joinChecks).filterMap s.fault? := by
    rw [List.filterMap_flatMap, funext s.joinFaults_eq]
  rw [checks, ← List.singleton_append]
  simp only [faults, List.filterMap_append, rootFaults_eq, fieldFaults_eq, hj, List.append_assoc]

/-- The first fault of a list of checks. -/
theorem forM_run_eq (s : Statement) (cs : List Check) :
    cs.forM (Check.run s) =
      match cs.filterMap s.fault? with
      | [] => .ok ()
      | e :: _ => .error e := by
  induction cs with
  | nil => rfl
  | cons c cs ih =>
    rw [show (c :: cs).forM (Check.run s) = (c.run s >>= fun _ => cs.forM (Check.run s)) from rfl,
      List.filterMap_cons]
    by_cases h : c.passes s
    · simpa [Check.run, fault?, h, bind, Except.bind] using ih
    · simp [Check.run, fault?, h, bind, Except.bind]

/-- **Validation makes one check after the other**, and stops at the first one that fails. -/
theorem validate_eq_forM (s : Statement) : s.validate = s.checks.forM (Check.run s) := by
  rw [forM_run_eq, ← faults_eq]
  rfl

theorem validate_eq_ok_iff_passes {s : Statement} :
    s.validate = .ok () ↔ ∀ c ∈ s.checks, c.passes s := by
  rw [validate_eq_ok_iff, faults_eq, List.filterMap_eq_nil_iff]
  simp [fault?]

theorem validate_of_checks_eq {s : Statement} {before after : List Check} {c : Check}
    (h : s.checks = before ++ c :: after) (hb : ∀ b ∈ before, b.passes s)
    (hc : ¬ c.passes s) : s.validate = .error (c.fault s) := by
  have hn : before.filterMap s.fault? = [] := by
    rw [List.filterMap_eq_nil_iff]
    intro b hm
    simp [fault?, hb b hm]
  rw [validate_eq_forM, forM_run_eq, h, List.filterMap_append, hn, List.nil_append,
    List.filterMap_cons]
  simp [fault?, hc]

/-! ## What the checks demand -/

/-- The fields of a statement, in the order of the text. -/
def mentioned (s : Statement) : List Field :=
  s.fields ++ (s.joins.flatMap (fun j => fieldsOf j.condition) ++ (fieldsOf s.filter ++
    (s.groupBy ++ (fieldsOf s.having ++ s.orderBy.map OrderItem.field))))

theorem filterMap_field?_map (c : Clause) (fs : List Field) :
    (fs.map (Check.field c)).filterMap Check.field? = fs := by
  rw [List.filterMap_map]
  exact List.filterMap_some

theorem filterMap_field?_joinChecks (j : Join) :
    (joinChecks j).filterMap Check.field? = fieldsOf j.condition := by
  unfold joinChecks
  cases j.condition with
  | none => rfl
  | some p =>
    rw [List.filterMap_append, filterMap_field?_map]
    exact List.append_nil _

/-- The fields that are checked are all fields there are. -/
theorem filterMap_field?_checks (s : Statement) :
    s.checks.filterMap Check.field? = s.mentioned := by
  have hj : (s.joins.flatMap joinChecks).filterMap Check.field? =
      s.joins.flatMap fun j => fieldsOf j.condition := by
    rw [List.filterMap_flatMap]
    simp only [filterMap_field?_joinChecks]
  rw [checks, ← List.singleton_append]
  simp only [List.filterMap_append, filterMap_field?_map, hj, mentioned]
  rfl

end Statement

/-- For reachable statements, the registry knows just the aliases that the statement declares. -/
theorem Statement.Reachable.contains_iff {s : Statement} (hs : s.Reachable) {a : Alias} :
    s.aliases.contains a = true ↔ s.Declares a := by
  rw [Registry.contains_iff, hs.registered.aliases_eq, Statement.declares_iff_mem]

theorem Check.passes_iff_holds {s : Statement} (hs : s.Reachable) (c : Check) :
    c.passes s ↔ c.Holds s := by
  cases c with
  | root => simp [passes, Holds]
  | field c f => exact hs.contains_iff
  | joined j p => simp [passes, Holds, Predicate.references]

namespace Statement

/-! ## Well-scoped statements -/

structure WellScoped (s : Statement) : Prop where
  named : s.root.isBlank = false
  declared : ∀ f ∈ s.mentioned, s.Declares f.qualifier
  related : ∀ j ∈ s.joins, ∀ p, j.condition = some p → ∃ f ∈ p.fields, f.qualifier = j.joined

theorem mem_joinChecks_joined {j j' : Join} {p : Predicate} :
    Check.joined j' p ∈ joinChecks j ↔ j' = j ∧ j.condition = some p := by
  unfold joinChecks
  cases j.condition with
  | none => simp
  | some q => simp [eq_comm (a := q)]

theorem mem_checks_joined {s : Statement} {j : Join} {p : Predicate} :
    Check.joined j p ∈ s.checks ↔ j ∈ s.joins ∧ j.condition = some p := by
  simp [checks, mem_joinChecks_joined]

theorem mem_mentioned_iff {s : Statement} {f : Field} :
    f ∈ s.mentioned ↔ ∃ c, Check.field c f ∈ s.checks := by
  rw [← filterMap_field?_checks, List.mem_filterMap]
  constructor
  · rintro ⟨c, hc, he⟩
    cases c with
    | field c g =>
      obtain rfl := Option.some.inj he
      exact ⟨c, hc⟩
    | root | joined => cases he
  · rintro ⟨c, hc⟩
    exact ⟨.field c f, hc, rfl⟩

theorem wellScoped_iff {s : Statement} : s.WellScoped ↔ ∀ c ∈ s.checks, c.Holds s := by
  constructor
  · intro w c hc
    cases c with
    | root => exact w.named
    | field c f => exact w.declared f (mem_mentioned_iff.mpr ⟨c, hc⟩)
    | joined j p =>
      obtain ⟨hj, hp⟩ := mem_checks_joined.mp hc
      exact w.related j hj p hp
  · intro h
    refine ⟨h .root (List.mem_cons_self ..), fun f hf => ?_, fun j hj p hp => ?_⟩
    · obtain ⟨c, hc⟩ := mem_mentioned_iff.mp hf
      exact h _ hc
    · exact h _ (mem_checks_joined.mpr ⟨hj, hp⟩)

/-- The first check that does not hold. -/
def FirstFailure (s : Statement) (c : Check) : Prop :=
  ∃ before after, s.checks = before ++ c :: after ∧ (∀ b ∈ before, b.Holds s) ∧ ¬ c.Holds s

theorem not_wellScoped_iff {s : Statement} : ¬ s.WellScoped ↔ ∃ c, s.FirstFailure c := by
  classical
  rw [wellScoped_iff]
  constructor
  · intro h
    have hs : (s.checks.find? fun c => ¬ c.Holds s).isSome := by
      rw [List.find?_isSome]
      push Not at h
      simpa using h
    obtain ⟨c, hc⟩ := Option.isSome_iff_exists.mp hs
    obtain ⟨hn, before, after, he, hb⟩ := List.find?_eq_some_iff_append.mp hc
    exact ⟨c, before, after, he, fun b hm => by simpa using hb b hm, by simpa using hn⟩
  · rintro ⟨c, before, after, he, -, hc⟩ h
    exact hc (h c (by simp [he]))

theorem Reachable.validate_eq_ok_iff {s : Statement} (hs : s.Reachable) :
    s.validate = .ok () ↔ s.WellScoped := by
  rw [validate_eq_ok_iff_passes, wellScoped_iff]
  simp only [Check.passes_iff_holds hs]

theorem Reachable.validate_of_firstFailure {s : Statement} (hs : s.Reachable) {c : Check}
    (h : s.FirstFailure c) : s.validate = .error (c.fault s) := by
  obtain ⟨before, after, he, hb, hc⟩ := h
  apply validate_of_checks_eq he
  · exact fun b hm => (Check.passes_iff_holds hs b).mpr (hb b hm)
  · rwa [Check.passes_iff_holds hs]

/-- Bound literals are never in the way of rendering. -/
theorem exists_render_iff {s : Statement} {l : Layout} (hl : l.paramStyle ≠ .inline) :
    (∃ r, s.render l = .ok r) ↔ s.validate = .ok () := by
  obtain ⟨f, hf⟩ := Draft.fill_eq_ok hl 0 s.draft
  rw [← fragment_eq_fill] at hf
  constructor
  · rintro ⟨r, hr⟩
    exact (render_eq_ok_iff.mp hr).1
  · intro h
    exact ⟨f.rendered l, render_eq_ok_iff.mpr ⟨h, f, hf, rfl⟩⟩

end Statement

/-- **Just the well-scoped statements render.** Under a style that binds, a statement renders if it
is well scoped. One that is not has a first check that fails, and under every style this is what is
reported. The fields of a predicate are checked in the order in which they are rendered. -/
theorem renders_iff_wellScoped {s : Statement} (hs : s.Reachable) (l : Layout) :
    (l.paramStyle ≠ .inline → ((∃ r, s.render l = .ok r) ↔ s.WellScoped)) ∧
    (¬ s.WellScoped ↔ ∃ c, s.FirstFailure c) ∧
    (∀ c, s.FirstFailure c → s.render l = .error (c.fault s)) ∧
    ∀ (p : Predicate) (next : Nat) (f : Fragment), p.fragment l.paramStyle next = .ok f →
      Token.references f.tokens = p.fields.map Field.reference := by
  refine ⟨fun hl => ?_, Statement.not_wellScoped_iff, fun c hc => ?_, fun p next f hf => ?_⟩
  · rw [Statement.exists_render_iff hl, hs.validate_eq_ok_iff]
  · exact Statement.render_of_validate_error (hs.validate_of_firstFailure hc) l
  · exact (Reader.references.reads_predicate hf).read_eq.trans (Reader.found_references _)

def Alias.people : Alias := ⟨⟨"person", "Person", "Person", []⟩, "pe"⟩

def Alias.passports : Alias := ⟨⟨"passport", "Passport", "Passport", []⟩, "pa"⟩

/-- The column `id` on an alias of its own entity. -/
def Field.id (a : Alias) : Field := ⟨a.entity, .int, "id", a, none⟩

/-- The `id` on an alias is less than a value. -/
def Predicate.idBelow (a : Alias) (v : Value) : Predicate :=
  comparison (.id a) (.compare .lt) (.literal v)

def Join.toPassports (p : Predicate) : Join := ⟨.left, .passports, some p⟩

/-- People in groups, joined with their passports. -/
def Statement.withPassports (p : Predicate) : Statement where
  root := .people
  aliases := ⟨[.people, .passports]⟩
  joins := [.toPassports p]
  groupBy := [.id .people]

theorem Statement.reachable_withPassports (p : Predicate) : (withPassports p).Reachable := by
  have hg := (Reachable.ofRoot .people).edit (.groupBy [.id .people])
  have hr : (Registry.withRoot .people).register .passports = .ok ⟨[.people, .passports]⟩ :=
    Registry.register_eq_ok_iff.mpr ⟨by decide, by decide, rfl⟩
  have hj : ((ofRoot .people).edit (.groupBy [.id .people])).apply (.join (.toPassports p)) =
      .ok (withPassports p) := join_eq_ok_iff.mpr ⟨_, hr, rfl⟩
  exact hg.step hj

/-- A condition on the passports renders; one on the people does not, and that its literal could
not be written either does not matter. -/
theorem renders_iff_wellScoped_withPassports :
    (∃ r, (Statement.withPassports (.idBelow .passports .null)).render {} = .ok r) ∧
    (Statement.withPassports (.idBelow .people (.float ⟨0x7ff8000000000000⟩))).render
      { paramStyle := .inline } =
        .error (.invalidState "pa" "Passport"
          "LEFT JOIN condition never references the joined alias") := by
  have hs := Statement.reachable_withPassports
  constructor
  · have hw : (Statement.withPassports (.idBelow .passports .null)).WellScoped := by
      rw [← (hs _).validate_eq_ok_iff]
      rfl
    exact ((renders_iff_wellScoped (hs _) {}).1 (by decide)).mpr hw
  · let p : Predicate := .idBelow .people (.float ⟨0x7ff8000000000000⟩)
    have hf : (Statement.withPassports p).FirstFailure (.joined (.toPassports p) p) := by
      refine ⟨[.root, .field .joinCondition (.id .people)],
        [.field .groupBy (.id .people)], rfl, ?_, ?_⟩
      · simp only [List.forall_mem_cons]
        exact ⟨show Alias.people.isBlank = false by decide, Or.inl rfl, nofun⟩
      · rintro ⟨f, hf, he⟩
        obtain rfl : f = .id .people := List.mem_singleton.mp hf
        exact absurd he (by decide)
    exact (renders_iff_wellScoped (hs p) { paramStyle := .inline }).2.2.1 _ hf

end SelectQuery
