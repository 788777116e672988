import SelectQuery.Proofs.Draft.Placeholders

/-!
# Numbering of parameters

The placeholders of a text, read in order, stand for the sites of its literals, read in order.
`Numbered` says what the indices are: no gaps, first uses in increasing order, one index for each
site (or, where placeholders are positional, for each use), and under each index the literal of
its site. `Draft.numbered_fill` derives it for every filled draft from the order in which sites
first come; the main statement is `parameters_numbered`.
-/

namespace SelectQuery

open Token (placeholders)

/-! ## First occurrences in lists -/

theorem eraseDups_map_of_injOn {α β : Type} [BEq α] [LawfulBEq α] [BEq β] [LawfulBEq β]
    (f : α → β) (xs : List α) (h : ∀ a ∈ xs, ∀ b ∈ xs, f a = f b → a = b) :
    (xs.map f).eraseDups = xs.eraseDups.map f := by
  induction hn : xs.length using Nat.strongRecOn generalizing xs with
  | ind n ih =>
    cases xs with
    | nil => rfl
    | cons a xs =>
      have hf : (xs.map f).filter (fun b => !b == f a) =
          (xs.filter fun b => !b == a).map f := by
        rw [List.filter_map]
        congr 1
        apply List.filter_congr
        intro b hb
        by_cases e : b = a
        · simp [e]
        · have : f b ≠ f a := fun e' =>
            e (h b (List.mem_cons_of_mem _ hb) a (List.mem_cons_self ..) e')
          simp [e, this]
      have hlt : (xs.filter fun b => !b == a).length < n := by
        have := List.length_filter_le (fun b => !b == a) xs
        rw [← hn, List.length_cons]
        omega
      have hi : ∀ b ∈ xs.filter (fun b => !b == a), ∀ c ∈ xs.filter (fun b => !b == a),
          f b = f c → b = c := fun b hb c hc =>
        h b (List.mem_cons_of_mem _ (List.mem_of_mem_filter hb)) c
          (List.mem_cons_of_mem _ (List.mem_of_mem_filter hc))
      rw [List.map_cons, List.eraseDups_cons, hf, ih _ hlt _ hi rfl, List.eraseDups_cons,
        List.map_cons]

theorem eraseDups_eq_self_of_nodup {α : Type} [BEq α] [LawfulBEq α] (xs : List α)
    (h : xs.Nodup) : xs.eraseDups = xs := by
  induction xs with
  | nil => rfl
  | cons a xs ih =>
    obtain ⟨ha, hxs⟩ := List.nodup_cons.mp h
    have hf : xs.filter (fun b => !b == a) = xs := by
      rw [List.filter_eq_self]
      intro b hb
      have : b ≠ a := fun e => ha (e ▸ hb)
      simp [this]
    rw [List.eraseDups_cons, hf, ih hxs]

theorem map_idxOf_eq_range {α : Type} [BEq α] [LawfulBEq α] (xs : List α) (h : xs.Nodup) :
    xs.map (xs.idxOf ·) = List.range xs.length := by
  apply List.ext_getElem
  · simp
  · intro i h1 h2
    simp only [List.getElem_map, List.getElem_range, h.idxOf_getElem]

namespace Draft

/-- The order of the sites is what remains of them when repetitions are dropped. -/
theorem map_site_firsts (seen : List Site) (os : List Literal) :
    (firsts seen os).map Literal.site = ((os.map Literal.site).removeAll seen).eraseDups := by
  induction os generalizing seen with
  | nil => rfl
  | cons o os ih =>
    rw [firsts, List.map_cons]
    split
    · next h => simp [ih, List.removeAll, h]
    · next h =>
      have hr : (o.site :: os.map Literal.site).removeAll seen =
          o.site :: (os.map Literal.site).removeAll seen := by
        simp [List.removeAll, h]
      have hs : (os.map Literal.site).removeAll (seen ++ [o.site]) =
          ((os.map Literal.site).removeAll seen).filter fun σ => !σ == o.site := by
        simp [List.removeAll, List.filter_filter, Bool.and_comm, beq_eq_decide]
      rw [List.map_cons, ih, hr, List.eraseDups_cons, hs]

theorem order_eq_eraseDups (os : List Literal) :
    order [] os = (os.map Literal.site).eraseDups := by
  simp [order, map_site_firsts, List.removeAll]

/-- The indices that the literals get under an indexed style. -/
theorem eraseDups_indices (os : List Literal) :
    (os.map fun o => (order [] os).idxOf o.site).eraseDups =
      List.range (firsts [] os).length := by
  have hm : ∀ σ ∈ os.map Literal.site, σ ∈ order [] os := by
    intro σ hσ
    obtain ⟨o, ho, rfl⟩ := List.mem_map.mp hσ
    exact (mem_order_iff ..).mpr (Or.inr ⟨o, ho, rfl⟩)
  have hl : (order [] os).length = (firsts [] os).length := by simp [order]
  rw [← hl, ← map_idxOf_eq_range _ (nodup_order [] os List.nodup_nil), order_eq_eraseDups,
    ← eraseDups_map_of_injOn, List.map_map]
  · rfl
  · intro σ hσ τ _ e
    rw [← order_eq_eraseDups] at e
    exact (List.idxOf_inj (hm σ hσ)).mp e

/-- **The value under an index.** It is the literal of every site that got the index. -/
theorem value_under_index (ts : List Term) {o : Literal} (ho : o ∈ literalsFrom 0 ts) :
    ((firsts [] (literalsFrom 0 ts)).map Literal.value)[
      (order [] (literalsFrom 0 ts)).idxOf o.site]? = some o.value := by
  have hm : o.site ∈ order [] (literalsFrom 0 ts) := (mem_order_iff ..).mpr (Or.inr ⟨o, ho, rfl⟩)
  have hs := List.getElem?_idxOf hm
  simp only [order, List.nil_append, List.getElem?_map, Option.map_eq_some_iff] at hs ⊢
  obtain ⟨p, hp, e⟩ := hs
  have hpm : p ∈ literalsFrom 0 ts := mem_of_mem_firsts (List.mem_of_getElem? hp)
  have hv : some p.value = some o.value := by
    rw [← literalAt_of_mem hpm, ← literalAt_of_mem ho, e]
  exact ⟨p, hp, Option.some.inj hv⟩

end Draft

/-! ## The numbering of a text -/

namespace Token

/-- A token that no parameter takes part in. -/
def fixed? : Token → Option Token
  | placeholder _ => none
  | t => some t

theorem fixed?_of_placeholder?_eq_none {t : Token} (h : t.placeholder? = none) :
    t.fixed? = some t := by
  cases t <;> first | rfl | cases h

end Token

/-- The tokens `ts`, with the parameters `ps`, number the literals of the terms exactly. The uses
of a parameter are the pairs of a placeholder's index and the site it stands for. -/
structure Numbered (positional : Bool) (terms : List Term) (ds : Draft) (ts : List Token)
    (ps : List Parameter) : Prop where
  /-- The tokens are those of the draft, with a placeholder for every literal. -/
  stands : ts.map Token.fixed? = ds.map Cell.token?
  /-- The literals of the draft stand at the sites of the terms. -/
  drafted : (Draft.literals ds).map Literal.site = sites terms
  /-- Every use has a placeholder, and every placeholder a use. -/
  length_eq : (placeholders ts).length = (sites terms).length
  /-- A parameter is stored under its own index. -/
  index_eq : ∀ (i : Nat) (p : Parameter), ps[i]? = some p → p.index = i
  /-- The indices first come as 0, 1, 2, ..., and all of them come. -/
  firsts_eq : (placeholders ts).eraseDups = List.range ps.length
  /-- Uses share an index exactly if they share a site, -/
  shared : positional = false → ∀ a ∈ (placeholders ts).zip (sites terms),
    ∀ b ∈ (placeholders ts).zip (sites terms), a.1 = b.1 ↔ a.2 = b.2
  /-- or never, where placeholders are positional. -/
  unshared : positional = true → (placeholders ts).Nodup
  /-- The parameter of a use is the literal of its site. -/
  value_eq : ∀ a ∈ (placeholders ts).zip (sites terms),
    ∃ v, literalAt terms a.2 = some v ∧ ps[a.1]? = some ⟨a.1, v⟩
  /-- Each parameter is used, by a slot that the template of its term refers to. -/
  used : ∀ p ∈ ps, ∃ σ t, (p.index, σ) ∈ (placeholders ts).zip (sites terms) ∧
    terms[σ.term]? = some t ∧ σ.slot ∈ Template.slots t.parts ∧
      t.arguments[σ.slot]? = some (.literal p.value)

theorem mem_zip_iff_getElem? {α β : Type} (xs : List α) (ys : List β) (a : α × β) :
    a ∈ xs.zip ys ↔ ∃ i : Nat, xs[i]? = some a.1 ∧ ys[i]? = some a.2 := by
  rw [List.mem_iff_getElem?]
  simp only [List.getElem?_zip_eq_some]

/-- Values that are bound from zero on have the indices of their places. -/
theorem Fragment.getElem?_parameters {f : Fragment}
    (hf : f.parameters = Parameter.listFrom 0 f.values) (i : Nat) :
    f.parameters[i]? = f.values[i]?.map (⟨i, ·⟩) := by
  rw [hf, Parameter.getElem?_listFrom, Nat.zero_add]

/-- What is left to show of a numbering: which indices come, where they repeat, and that the value
under the index of a literal is its own. -/
theorem numbered_of_values {positional : Bool} {terms : List Term} {ds : Draft} {f : Fragment}
    (hd : Draft.literals ds = literalsFrom 0 terms)
    (hf : f.parameters = Parameter.listFrom 0 f.values)
    (hs : f.tokens.map Token.fixed? = ds.map Cell.token?)
    (hlen : (placeholders f.tokens).length = (literalsFrom 0 terms).length)
    (hfirst : (placeholders f.tokens).eraseDups = List.range f.values.length)
    (hval : ∀ (i n : Nat) (o : Literal), (placeholders f.tokens)[i]? = some n →
      (literalsFrom 0 terms)[i]? = some o → f.values[n]? = some o.value)
    (hsh : positional = false → ∀ a ∈ (placeholders f.tokens).zip (sites terms),
      ∀ b ∈ (placeholders f.tokens).zip (sites terms), a.1 = b.1 ↔ a.2 = b.2)
    (hun : positional = true → (placeholders f.tokens).Nodup) :
    Numbered positional terms ds f.tokens f.parameters := by
  have hpair : ∀ a ∈ (placeholders f.tokens).zip (sites terms), ∃ o ∈ literalsFrom 0 terms,
      o.site = a.2 ∧ f.values[a.1]? = some o.value := by
    intro a ha
    obtain ⟨i, hi, hσ⟩ := (mem_zip_iff_getElem? ..).mp ha
    rw [sites, List.getElem?_map, Option.map_eq_some_iff] at hσ
    obtain ⟨o, ho, e⟩ := hσ
    exact ⟨o, List.mem_of_getElem? ho, e, hval i a.1 o hi ho⟩
  refine ⟨hs, by rw [hd, sites], by rw [hlen, sites, List.length_map], ?_,
    by rw [hfirst, hf, Parameter.length_listFrom], hsh, hun, ?_, ?_⟩
  · intro i p hp
    rw [Fragment.getElem?_parameters hf, Option.map_eq_some_iff] at hp
    obtain ⟨v, _, rfl⟩ := hp
    rfl
  · intro a ha
    obtain ⟨o, ho, e, hv⟩ := hpair a ha
    exact ⟨o.value, e ▸ literalAt_of_mem ho, by rw [Fragment.getElem?_parameters hf, hv]; rfl⟩
  · intro p hp
    obtain ⟨j, hj⟩ := List.mem_iff_getElem?.mp hp
    rw [Fragment.getElem?_parameters hf, Option.map_eq_some_iff] at hj
    obtain ⟨v, hv, rfl⟩ := hj
    -- the index comes among the placeholders, so some use has it
    have hm : j ∈ placeholders f.tokens := by
      rw [← List.mem_eraseDups, hfirst, List.mem_range]
      exact (List.getElem?_eq_some_iff.mp hv).1
    obtain ⟨i, hi⟩ := List.mem_iff_getElem?.mp hm
    have hlt : i < (literalsFrom 0 terms).length := hlen ▸ (List.getElem?_eq_some_iff.mp hi).1
    have ho := List.getElem?_eq_getElem hlt
    have hv' := hval i j _ hi ho
    rw [hv, Option.some.injEq] at hv'
    obtain ⟨m, t, ht, hk, _, hslot, harg⟩ :=
      (mem_literalsFrom_iff 0 terms _).mp (List.mem_of_getElem? ho)
    refine ⟨((literalsFrom 0 terms)[i]).site, t, (mem_zip_iff_getElem? ..).mpr ⟨i, hi, ?_⟩, ?_,
      hslot, hv' ▸ harg⟩
    · rw [sites, List.getElem?_map, ho]
      rfl
    · rw [hk, Nat.zero_add, ht]

namespace Draft

theorem fixed?_spell (f : Literal → Nat) (ds : Draft) (h : Unbound ds) :
    (spell (fun o => .placeholder (f o)) ds).map Token.fixed? = ds.map Cell.token? := by
  rw [spell, List.map_map]
  apply List.map_congr_left
  intro c hc
  cases c with
  | token t => exact Token.fixed?_of_placeholder?_eq_none (h t hc)
  | literal o => rfl

theorem fixed?_counted (next : Nat) (ds : Draft) (h : Unbound ds) :
    (counted next ds).map Token.fixed? = ds.map Cell.token? := by
  induction ds generalizing next with
  | nil => rfl
  | cons c ds ih =>
    obtain ⟨hc, hds⟩ := (unbound_cons c ds).mp h
    cases c with
    | token t =>
      have ht : t.fixed? = some t :=
        Token.fixed?_of_placeholder?_eq_none (hc t (List.mem_singleton_self _))
      rw [counted, List.map_cons, List.map_cons, ih next hds, ht]
      rfl
    | literal o =>
      rw [counted, List.map_cons, List.map_cons, ih (next + 1) hds]
      rfl

theorem numbered_shared {terms : List Term} {ds : Draft} (hd : literals ds = literalsFrom 0 terms)
    (hu : Unbound ds) : Numbered false terms ds (shared 0 [] ds).tokens
      (shared 0 [] ds).parameters := by
  have hp : placeholders (shared 0 [] ds).tokens =
      (literalsFrom 0 terms).map fun o => (order [] (literalsFrom 0 terms)).idxOf o.site := by
    rw [shared, placeholders_spell _ _ hu, hd]
    simp only [Nat.zero_add]
  have hv : (shared 0 [] ds).values = (firsts [] (literalsFrom 0 terms)).map Literal.value := by
    rw [values_shared, hd]
  have hfill : fill .indexed 0 ds = .ok (shared 0 [] ds) := rfl
  apply numbered_of_values hd (parameters_of_fill hfill) (fixed?_spell _ ds hu)
  · rw [hp, List.length_map]
  · rw [hp, eraseDups_indices, hv, List.length_map]
  · intro i n o hn ho
    rw [hp, List.getElem?_map, ho, Option.map_some, Option.some.injEq] at hn
    rw [hv, ← hn]
    exact value_under_index terms (List.mem_of_getElem? ho)
  · intro _ a ha b hb
    rw [hp, sites, List.zip_map', List.mem_map] at ha hb
    obtain ⟨o, ho, rfl⟩ := ha
    obtain ⟨p, _, rfl⟩ := hb
    exact List.idxOf_inj ((mem_order_iff ..).mpr (Or.inr ⟨o, ho, rfl⟩))
  · intro h
    cases h

theorem numbered_positional {terms : List Term} {ds : Draft}
    (hd : literals ds = literalsFrom 0 terms) (hu : Unbound ds) :
    Numbered true terms ds (positional 0 ds).tokens (positional 0 ds).parameters := by
  have hp : placeholders (positional 0 ds).tokens = List.range (literalsFrom 0 terms).length := by
    rw [positional, placeholders_counted 0 ds hu, hd, List.range_eq_range']
  have hv : (positional 0 ds).values = (literalsFrom 0 terms).map Literal.value := by
    rw [values_positional, hd]
  have hfill : fill .question 0 ds = .ok (positional 0 ds) := rfl
  apply numbered_of_values hd (parameters_of_fill hfill) (fixed?_counted 0 ds hu)
  · rw [hp, List.length_range]
  · rw [hp, hv, List.length_map, eraseDups_eq_self_of_nodup _ List.nodup_range]
  · intro i n o hn ho
    rw [hp, List.getElem?_range (List.getElem?_eq_some_iff.mp ho).1, Option.some.injEq] at hn
    rw [hv, List.getElem?_map, ← hn, ho]
    rfl
  · intro h
    cases h
  · intro _
    rw [hp]
    exact List.nodup_range

/-- **Filling numbers the literals.** -/
theorem numbered_fill {style : ParamStyle} (hs : style ≠ .inline) {terms : List Term} {ds : Draft}
    (hd : literals ds = literalsFrom 0 terms) (hu : Unbound ds) {f : Fragment}
    (hf : fill style 0 ds = .ok f) :
    Numbered style.isPositional terms ds f.tokens f.parameters := by
  cases style with
  | inline => exact absurd rfl hs
  | question =>
    cases hf
    exact numbered_positional hd hu
  | indexed | atP | dollar =>
    cases hf
    exact numbered_shared hd hu

end Draft

/-! ## Statements and predicates -/

/-- **Parameter numbering is exact.** Under every style that binds, the parameters of a rendered
statement or predicate number the literals of its terms, in the order of its text. -/
theorem parameters_numbered (l : Layout) (hl : l.paramStyle ≠ .inline) :
    (∀ (s : Statement) (r : Rendered), s.render l = .ok r →
      ∃ f, s.fragment l.paramStyle = .ok f ∧ r.commandText = Token.textOf l f.tokens ∧
        Numbered l.paramStyle.isPositional s.terms s.draft f.tokens r.parameters) ∧
    ∀ (p : Predicate) (r : Rendered), p.render l = .ok r →
      ∃ f, p.fragment l.paramStyle 0 = .ok f ∧ r.commandText = Token.textOf l f.tokens ∧
        Numbered l.paramStyle.isPositional p.terms (p.draft 0) f.tokens r.parameters := by
  constructor
  · intro s r h
    obtain ⟨_, f, hf, rfl⟩ := Statement.render_eq_ok_iff.mp h
    have hfill : Draft.fill l.paramStyle 0 s.draft = .ok f := by
      rw [← Statement.fragment_eq_fill, hf]
    exact ⟨f, hf, rfl, Draft.numbered_fill hl s.literals_draft s.unbound_draft hfill⟩
  · intro p r h
    obtain ⟨f, hf, rfl⟩ := Predicate.render_eq_ok_iff.mp h
    have hfill : Draft.fill l.paramStyle 0 (p.draft 0) = .ok f := by
      rw [← Predicate.fragment_eq_fill, hf]
    exact ⟨f, hf, rfl, Draft.numbered_fill hl (p.literals_draft 0) (p.unbound_draft 0) hfill⟩

/-- Slots used twice, with one index for both uses and with an index for each. -/
theorem parameters_numbered_doubled :
    (∃ r f, (Statement.doubled .null (.bool true)).render {} = .ok r ∧
      (Statement.doubled .null (.bool true)).fragment .indexed = .ok f ∧
      placeholders f.tokens = [0, 0, 1, 1] ∧
      Numbered false [.doubled .null, .doubled (.bool true)]
        (Statement.doubled .null (.bool true)).draft f.tokens r.parameters) ∧
    ∃ r f, (Predicate.doubled .null (.bool true)).render { paramStyle := .question } = .ok r ∧
      (Predicate.doubled .null (.bool true)).fragment .question 0 = .ok f ∧
      placeholders f.tokens = [0, 1, 2, 3] ∧
      Numbered true [.doubled .null, .doubled (.bool true)]
        ((Predicate.doubled .null (.bool true)).draft 0) f.tokens r.parameters := by
  constructor
  · obtain ⟨f, hf, -, hn⟩ :=
      (parameters_numbered {} (by decide)).1 (.doubled .null (.bool true)) _ rfl
    refine ⟨_, f, rfl, hf, ?_, hn⟩
    cases hf
    rfl
  · obtain ⟨f, hf, -, hn⟩ :=
      (parameters_numbered { paramStyle := .question } (by decide)).2
        (.doubled .null (.bool true)) _ rfl
    refine ⟨_, f, rfl, hf, ?_, hn⟩
    cases hf
    rfl

end SelectQuery
