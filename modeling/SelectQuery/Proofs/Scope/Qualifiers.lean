import SelectQuery.Proofs.Scope

/-!
# Qualifiers resolve

The fields that a statement is rendered with are the fields that were checked
(`Statement.references_eq`), and its FROM and JOIN lines declare the aliases that were registered
(`Statement.Reachable.declarations_eq`). Registered values differ from each other, so every
qualifier in the text is declared once: `qualifiers_resolve`.
-/

namespace SelectQuery

namespace Statement

variable {s : Statement} {style : ParamStyle} {f : Fragment}

/-- What a reader finds that passes over declarations. -/
theorem read_of_ofAlias_eq_nil {α : Type} {R : Reader α} (hR : ∀ a, R.ofAlias a = [])
    (h : s.fragment style = .ok f) : R.read f.tokens = R.found s.mentioned := by
  have hj : s.joins.flatMap R.foundJoin =
      R.found (s.joins.flatMap fun j => fieldsOf j.condition) := by
    rw [Reader.found, List.flatMap_assoc]
    exact List.flatMap_congr fun j _ => by rw [Reader.foundJoin, hR, List.nil_append]; rfl
  rw [R.reads_statement h, hj, hR, List.append_nil]
  simp only [mentioned, Reader.found_append]

theorem references_eq (h : s.fragment style = .ok f) :
    Token.references f.tokens = s.mentioned.map Field.reference :=
  (read_of_ofAlias_eq_nil (R := Reader.references) (fun _ => rfl) h).trans
    (Reader.found_references _)

theorem qualifiers_eq (h : s.fragment style = .ok f) :
    Token.qualifiers f.tokens = s.mentioned.map fun f => f.qualifier.value :=
  (read_of_ofAlias_eq_nil (R := Reader.qualifiers) (fun _ => rfl) h).trans
    List.map_eq_flatMap.symm

/-- The declarations are the registered values. -/
theorem Reachable.declarations_eq (hs : s.Reachable) (h : s.fragment style = .ok f) :
    Token.declarations f.tokens = s.aliases.aliases.map Alias.value := by
  have hfound : ∀ fs, Reader.declarations.found fs = [] := fun fs =>
    List.flatMap_eq_nil_iff.mpr fun _ _ => rfl
  have hj : s.joins.flatMap Reader.declarations.foundJoin =
      s.joins.map fun j => j.joined.value := by
    rw [List.map_eq_flatMap]
    exact List.flatMap_congr fun j _ => by rw [Reader.foundJoin, hfound]; rfl
  have hread := Reader.declarations.reads_statement h
  rw [hj] at hread
  rw [show Token.declarations = Reader.declarations.read from rfl, hread, hs.registered.aliases_eq]
  simp [hfound]
  rfl

/-- The qualifiers are registered values. -/
theorem Reachable.mem_values_of_mem_qualifiers (hs : s.Reachable) (hw : s.WellScoped)
    (h : s.fragment style = .ok f) {a : String} (ha : a ∈ Token.qualifiers f.tokens) :
    a ∈ s.aliases.aliases.map Alias.value := by
  rw [qualifiers_eq h] at ha
  obtain ⟨f, hf, rfl⟩ := List.mem_map.mp ha
  have hd := hs.contains_iff.mpr (hw.declared f hf)
  exact List.mem_map_of_mem (Registry.contains_iff.mp hd)

end Statement

/-- **No qualifier is dangling or ambiguous.** A reachable statement that renders refers to the
fields that validation has checked, one by one in the same order, and whatever stands before a dot
is declared by exactly one FROM or JOIN line. -/
theorem qualifiers_resolve {s : Statement} {l : Layout} {r : Rendered} (hs : s.Reachable)
    (h : s.render l = .ok r) :
    ∃ f, s.fragment l.paramStyle = .ok f ∧ r.commandText = Token.textOf l f.tokens ∧
      s.validate = s.checks.forM (Check.run s) ∧
      Token.references f.tokens = (s.checks.filterMap Check.field?).map Field.reference ∧
      ∀ a, [Token.ident a, Token.dot] <:+: f.tokens →
        (Token.declarations f.tokens).count a = 1 := by
  obtain ⟨hv, f, hf, rfl⟩ := Statement.render_eq_ok_iff.mp h
  refine ⟨f, hf, rfl, s.validate_eq_forM, ?_, fun a ha => ?_⟩
  · rw [Statement.filterMap_field?_checks, Statement.references_eq hf]
  · rw [hs.declarations_eq hf]
    apply List.count_eq_one_of_mem hs.registered.nodup_values
    exact hs.mem_values_of_mem_qualifiers (hs.validate_eq_ok_iff.mp hv) hf
      (Token.mem_qualifiers_of_infix ha)

/-- How many passports there are, compared with themselves; the people are never mentioned. -/
def Predicate.countTwice : Predicate :=
  .term (.ofParts [.slot 0, .text " <= ", .slot 0]
    [.field ((Field.id .passports).aggregated .count), .field (.id .people)])

/-- A slot used twice counts twice, and one that is not used does not count. -/
theorem qualifiers_resolve_withPassports :
    ∃ f, ((Statement.withPassports (.idBelow .passports .null)).edit
        (.having .countTwice)).fragment .indexed = .ok f ∧
      Token.references f.tokens = [⟨none, "pa", "id"⟩, ⟨none, "pe", "id"⟩,
        ⟨some "COUNT", "pa", "id"⟩, ⟨some "COUNT", "pa", "id"⟩] ∧
      ∀ a, [Token.ident a, Token.dot] <:+: f.tokens →
        (Token.declarations f.tokens).count a = 1 := by
  have hs := (Statement.reachable_withPassports (.idBelow .passports .null)).edit
    (.having .countTwice)
  obtain ⟨f, hf, -, -, hr, hq⟩ := qualifiers_resolve (l := {}) hs rfl
  exact ⟨f, hf, hr, hq⟩

end SelectQuery
