import SelectQuery.Proofs.Draft.Placeholders
import SelectQuery.Proofs.Fragments
import SelectQuery.Proofs.Outline
import SelectQuery.Proofs.Scope

/-!
# Statements are composed of predicates

A predicate can be rendered by itself, where its indices start at zero.

* `Predicate.fragment_eq_raised`: after `n` values it gives what it gives by itself, with the
  indices raised by `n`;
* `Composed`: fragments that are put together from predicates, part by part;
* `Statement.composed_of_fragment`: a statement has the tokens of its outline, with each predicate
  in its place;
* `rendering_composes`: so a statement is rendered as its predicates are by themselves.
-/

namespace SelectQuery

open Draft (Unbound)
open Token (placeholders)

/-! ## Raised indices -/

/-- A token after `n` further values. -/
def Token.raised (n : Nat) : Token → Token
  | placeholder i => placeholder (i + n)
  | t => t

theorem Token.raised_of_placeholder?_eq_none {t : Token} (h : t.placeholder? = none) (n : Nat) :
    t.raised n = t := by
  cases t <;> first | rfl | cases h

/-- A parameter that is bound after `n` further values. -/
def Parameter.raised (n : Nat) (p : Parameter) : Parameter := { p with index := p.index + n }

theorem Parameter.map_raised_listFrom (n next : Nat) (vs : List Value) :
    (listFrom next vs).map (raised n) = listFrom (next + n) vs := by
  induction vs generalizing next with
  | nil => rfl
  | cons v vs ih =>
    rw [listFrom_cons, List.map_cons, ih (next + 1), listFrom_cons, Nat.add_right_comm next 1 n]
    rfl

def Fragment.raised (n : Nat) (f : Fragment) : Fragment :=
  ⟨f.tokens.map (Token.raised n), f.parameters.map (Parameter.raised n)⟩

@[simp]
theorem Fragment.values_raised (n : Nat) (f : Fragment) : (f.raised n).values = f.values :=
  List.map_map

namespace Draft

theorem raised_spell (n : Nat) {f g : Literal → Token} (h : ∀ o, (f o).raised n = g o) {ds : Draft}
    (hd : Unbound ds) : (spell f ds).map (Token.raised n) = spell g ds := by
  rw [spell, List.map_map]
  apply List.map_congr_left
  intro c hc
  cases c with
  | token t => exact Token.raised_of_placeholder?_eq_none (hd t hc) n
  | literal o => exact h o

theorem raised_counted (n next : Nat) {ds : Draft} (hd : Unbound ds) :
    (counted next ds).map (Token.raised n) = counted (next + n) ds := by
  induction ds generalizing next with
  | nil => rfl
  | cons c ds ih =>
    obtain ⟨hc, hds⟩ := (unbound_cons c ds).mp hd
    cases c with
    | token t =>
      have ht : t.raised n = t :=
        Token.raised_of_placeholder?_eq_none (hc t (List.mem_singleton_self _)) n
      rw [counted, List.map_cons, ht, ih next hds, counted]
    | literal o =>
      rw [counted, List.map_cons, ih (next + 1) hds, counted, Nat.add_right_comm next 1 n]
      rfl

/-- **Filling after further values** raises the indices, and that is all. -/
theorem fill_eq_raised (style : ParamStyle) (n : Nat) {ds : Draft} (hd : Unbound ds) :
    fill style n ds = (fill style 0 ds).map (Fragment.raised n) := by
  have hinlined : ∀ o : Literal, o.inlined.raised n = o.inlined := fun _ => rfl
  have hshared : ∀ i : Nat, (Token.placeholder i).raised n = .placeholder (n + i) := by
    intro i
    rw [Token.raised, Nat.add_comm]
  unfold fill
  split
  · unfold inline
    split
    · rfl
    · simp only [Except.map, Fragment.raised, raised_spell n hinlined hd, List.map_nil]
  · split
    · simp only [positional, Except.map, Fragment.raised, raised_counted n 0 hd, Nat.zero_add,
        Parameter.map_raised_listFrom]
    · simp only [shared, Except.map, Fragment.raised, List.length_nil, Nat.add_zero, Nat.zero_add,
        raised_spell n (fun _ => hshared _) hd, Parameter.map_raised_listFrom]

end Draft

/-! ## Predicates by themselves -/

namespace Predicate

variable {style : ParamStyle} {n : Nat} {p : Predicate} {f : Fragment}

/-- What a predicate is rendered to by itself. -/
def alone (style : ParamStyle) (p : Predicate) : Fragment := (p.fragment style 0).toOption.getD {}

/-- The number of values that a predicate binds. -/
def bound (style : ParamStyle) (p : Predicate) : Nat := (p.alone style).parameters.length

/-- The tokens of a predicate after a number of values. -/
def placed (style : ParamStyle) (x : Nat × Predicate) : List Token :=
  (x.2.alone style).tokens.map (Token.raised x.1)

/-- **What comes before a predicate** raises its indices, and that is all. -/
theorem fragment_eq_raised (style : ParamStyle) (n : Nat) (p : Predicate) :
    p.fragment style n = (p.fragment style 0).map (Fragment.raised n) := by
  rw [p.fragment_eq_fill style n 0, p.fragment_eq_fill style 0 0,
    Draft.fill_eq_raised style n (p.unbound_draft 0)]

theorem fragment_eq_ok_iff :
    p.fragment style n = .ok f ↔
      p.fragment style 0 = .ok (p.alone style) ∧ f = (p.alone style).raised n := by
  rw [fragment_eq_raised]
  unfold alone
  cases p.fragment style 0 with
  | error e => exact ⟨nofun, nofun⟩
  | ok g =>
    constructor
    · intro h
      exact ⟨rfl, (Except.ok.inj h).symm⟩
    · rintro ⟨-, rfl⟩
      rfl

theorem render_alone {l : Layout} (h : p.fragment l.paramStyle 0 = .ok (p.alone l.paramStyle)) :
    p.render l = .ok ((p.alone l.paramStyle).rendered l) :=
  render_eq_ok_iff.mpr ⟨_, h, rfl⟩

/-- **Two operands**: the values of the left one come first, and raise the indices of the right
one. -/
theorem fragment_combine_iff {logic : Logic} {q : Predicate} :
    (combine logic p q).fragment style 0 = .ok f ↔
      p.fragment style 0 = .ok (p.alone style) ∧ q.fragment style 0 = .ok (q.alone style) ∧
        f.parameters = (p.alone style).parameters ++
          (q.alone style).parameters.map (Parameter.raised (p.bound style)) ∧
        f.tokens = p.operand (p.alone style).tokens ++ [.space, .keyword logic.keyword, .space] ++
          q.operand (placed style (p.bound style, q)) := by
  constructor
  · intro h
    obtain ⟨g, k, hg, hk, hv, ht⟩ := fragment_combine h
    obtain ⟨hp, -⟩ := fragment_eq_ok_iff.mp hg
    obtain rfl := Except.ok.inj (hp.symm.trans hg)
    obtain ⟨hq, rfl⟩ := fragment_eq_ok_iff.mp hk
    rw [Nat.zero_add] at hv ht
    refine ⟨hp, hq, hv, ?_⟩
    rw [ht, ← List.append_assoc]
    rfl
  · rintro ⟨hp, hq, hv, ht⟩
    have hk : q.fragment style (0 + (p.alone style).parameters.length) =
        .ok ((q.alone style).raised (0 + (p.alone style).parameters.length)) :=
      fragment_eq_ok_iff.mpr ⟨hq, rfl⟩
    rw [fragment, hp]
    simp only [bind, Except.bind, hk, pure, Except.pure, Except.ok.injEq]
    obtain ⟨ts, ps⟩ := f
    obtain rfl : ps = _ := hv
    obtain rfl : ts = _ := ht
    rw [Nat.zero_add]
    rfl

end Predicate

/-! ## Putting fragments together -/

/-- A fragment with the tokens `ts` and the values of the predicates `ps`, each of which renders by
itself. -/
structure Composed (style : ParamStyle) (ps : List Predicate) (f : Fragment) (ts : List Token) :
    Prop where
  alone_eq : ∀ p ∈ ps, p.fragment style 0 = .ok (p.alone style)
  values_eq : f.values = ps.flatMap fun p => (p.alone style).values
  tokens_eq : f.tokens = ts

namespace Composed

variable {style : ParamStyle} {ps qs : List Predicate} {f g : Fragment} {ts us : List Token}

theorem ofTokens (ts : List Token) : Composed style [] ⟨ts, []⟩ ts := ⟨nofun, rfl, rfl⟩

theorem append (hf : Composed style ps f ts) (hg : Composed style qs g us) :
    Composed style (ps ++ qs) (f ++ g) (ts ++ us) where
  alone_eq p hp := (List.mem_append.mp hp).elim (hf.alone_eq p) (hg.alone_eq p)
  values_eq := by rw [Fragment.values_append, hf.values_eq, hg.values_eq, List.flatMap_append]
  tokens_eq := by rw [Fragment.tokens_append, hf.tokens_eq, hg.tokens_eq]

theorem after (hf : Composed style ps f ts) (us : List Token) :
    Composed style ps (f.after us) (us ++ ts) :=
  (ofTokens us).append hf

theorem length_parameters (h : Composed style ps f ts) :
    f.parameters.length = total (Predicate.bound style) ps := by
  have hp : ∀ g : Fragment, g.values.length = g.parameters.length := fun g =>
    List.length_map Parameter.value
  rw [← hp, h.values_eq, length_flatMap_eq_total]
  exact congrArg (total · ps) (funext fun p => hp _)

end Composed

theorem Predicate.composed {style : ParamStyle} {n : Nat} {p : Predicate} {f : Fragment}
    (h : p.fragment style n = .ok f) : Composed style [p] f (placed style (n, p)) := by
  obtain ⟨h0, rfl⟩ := fragment_eq_ok_iff.mp h
  refine ⟨fun q hq => ?_, ?_, rfl⟩
  · rw [List.mem_singleton.mp hq, h0]
  · rw [List.flatMap_singleton, Fragment.values_raised]

theorem Join.composed {style : ParamStyle} {n : Nat} {j : Join} {f : Fragment}
    (h : j.fragment style n = .ok f) :
    Composed style j.condition.toList f
      (below ((j.outline.map (n, ·)).map (Predicate.placed style)).tokenLines) := by
  have hlines : ∀ c : Option (List Token),
      below (⟨j.kind, j.joined, c⟩ : JoinOutline (List Token)).tokenLines =
        j.headTokens ++ JoinOutline.onTokens c := by
    intro c
    simp [below, JoinOutline.tokenLines, JoinOutline.title, headTokens]
  unfold fragment at h
  unfold outline
  cases hc : j.condition with
  | none =>
    rw [hc] at h
    obtain rfl := Except.ok.inj h
    have hnone := hlines none
    rw [JoinOutline.onTokens, List.append_nil] at hnone
    exact hnone ▸ .ofTokens j.headTokens
  | some p =>
    rw [hc] at h
    obtain ⟨g, hg, he⟩ := exists_of_bind_eq_ok h
    obtain rfl := Except.ok.inj he
    have hp := (Predicate.composed hg).after (j.headTokens ++ [.space, .keyword .«on», .space])
    refine ⟨hp.alone_eq, hp.values_eq, ?_⟩
    exact hp.tokens_eq.trans ((List.append_assoc ..).trans (hlines (some _)).symm)

namespace Statement

variable {style : ParamStyle} {s : Statement} {f : Fragment}

/-- The outline of a statement with the tokens of each predicate in its place, its indices raised by
the number of values bound before it. -/
def placed (style : ParamStyle) (s : Statement) : Outline (List Token) :=
  (s.outline.numbered (Predicate.bound style)).map (Predicate.placed style)

theorem composed_of_joinsFragment {n : Nat} {js : List Join}
    (h : joinsFragment style n js = .ok f) :
    Composed style (js.filterMap Join.condition) f
      (below (((JoinOutline.numbered (Predicate.bound style) n (js.map Join.outline)).map
        (·.map (Predicate.placed style))).flatMap JoinOutline.tokenLines)) := by
  induction js generalizing n f with
  | nil =>
    obtain rfl := Except.ok.inj h
    exact .ofTokens []
  | cons j js ih =>
    rw [joinsFragment] at h
    obtain ⟨g, hg, h⟩ := exists_of_bind_eq_ok h
    obtain ⟨k, hk, h⟩ := exists_of_bind_eq_ok h
    obtain rfl := Except.ok.inj h
    have hj := Join.composed hg
    rw [hj.length_parameters] at hk
    have hl : (j :: js).filterMap Join.condition =
        j.condition.toList ++ js.filterMap Join.condition := by
      rw [List.filterMap_cons]
      cases j.condition <;> rfl
    rw [hl, List.map_cons, JoinOutline.numbered, List.map_cons, List.flatMap_cons, below_append]
    exact hj.append (ih hk)

theorem composed_of_predicateFragment {k : Keyword} {n : Nat} {p : Option Predicate}
    (h : predicateFragment style k n p = .ok f) :
    Composed style p.toList f
      (below (optionLines k ((p.map (n, ·)).map (Predicate.placed style)))) := by
  cases p with
  | none =>
    obtain rfl := Except.ok.inj h
    exact .ofTokens []
  | some p =>
    obtain ⟨g, hg, he⟩ := exists_of_bind_eq_ok h
    obtain rfl := Except.ok.inj he
    have hp := (Predicate.composed hg).after (clauseHead k)
    rw [← below_clauseLines] at hp
    simpa [optionLines] using hp

/-- **The tokens of a statement** are those of its outline with each predicate in its place. -/
theorem composed_of_fragment (h : s.fragment style = .ok f) :
    Composed style s.predicates f (s.placed style).tokens := by
  rw [fragment] at h
  obtain ⟨js, hj, h⟩ := exists_of_bind_eq_ok h
  obtain ⟨fi, hf, h⟩ := exists_of_bind_eq_ok h
  obtain ⟨ha, hh, h⟩ := exists_of_bind_eq_ok h
  obtain rfl := Except.ok.inj h
  have cj := composed_of_joinsFragment hj
  rw [cj.length_parameters] at hf hh
  have cf := composed_of_predicateFragment hf
  rw [cf.length_parameters] at hh
  have ch := composed_of_predicateFragment hh
  have hall := (((((Composed.ofTokens s.headTokens).append cj).append cf).append
    (.ofTokens (listTokens .groupBy (s.groupBy.map Field.tokens)))).append ch).append
      (.ofTokens (listTokens .orderBy (s.orderBy.map OrderItem.tokens)))
  constructor
  case alone_eq => simpa [predicates] using hall.alone_eq
  case values_eq =>
    have hv := hall.values_eq
    simp only [Fragment.values_append] at hv
    simpa [predicates, Fragment.values] using hv
  case tokens_eq =>
    have hhead : (s.placed style).headTokens = s.headTokens := s.headTokens_map_outline _ _
    rw [Outline.tokens_eq, hhead]
    simpa only [placed, Outline.map, Outline.numbered, outline, conditions_outline,
      Fragment.tokens_append] using hall.tokens_eq

/-- The predicates stand in their order, each raised by what the ones before it bind. -/
theorem getElem?_bodies_placed (style : ParamStyle) (s : Statement) (k : Nat) :
    (s.placed style).bodies[k]? = s.predicates[k]?.map fun p =>
      (p.alone style).tokens.map
        (Token.raised (total (Predicate.bound style) (s.predicates.take k))) := by
  rw [placed, Outline.bodies_map, Outline.bodies_numbered, bodies_outline, List.getElem?_map,
    getElem?_offsets, Option.map_map, Nat.zero_add]
  rfl

/-! ## Placeholders -/

theorem placeholders_joinLines (js : List (JoinOutline (List Token))) :
    placeholders (below (js.flatMap JoinOutline.tokenLines)) =
      (js.filterMap JoinOutline.condition).flatMap placeholders := by
  induction js with
  | nil => rfl
  | cons j js ih =>
    have hj : placeholders (below j.tokenLines) = j.condition.toList.flatMap placeholders := by
      obtain ⟨k, a, _ | ts⟩ := j
      · rfl
      · have hh : below (⟨k, a, some ts⟩ : JoinOutline (List Token)).tokenLines =
            below (⟨k, a, none⟩ : JoinOutline (List Token)).tokenLines ++
              [.space, .keyword .«on», .space] ++ ts := by
          simp [below, JoinOutline.tokenLines, JoinOutline.onTokens]
        rw [hh, Token.placeholders_append, Option.toList_some, List.flatMap_singleton]
        rfl
    rw [List.flatMap_cons, below_append, Token.placeholders_append, hj, ih, List.filterMap_cons]
    cases j.condition <;> simp

theorem placeholders_optionLines (k : Keyword) (body : Option (List Token)) :
    placeholders (below (optionLines k body)) = body.toList.flatMap placeholders := by
  cases body with
  | none => rfl
  | some ts =>
    simp only [optionLines, Option.toList_some, List.flatMap_singleton, below_clauseLines,
      Token.placeholders_append]
    rfl

/-- All placeholders stand in predicates. -/
theorem placeholders_tokens_placed (style : ParamStyle) (s : Statement) :
    placeholders (s.placed style).tokens = (s.placed style).bodies.flatMap placeholders := by
  have hhead : (s.placed style).headTokens = s.headTokens := s.headTokens_map_outline _ _
  have hgroup : placeholders (listTokens .groupBy ((s.placed style).groupBy.map Field.tokens)) =
      [] := placeholders_listTokens _ _ (placeholders_fieldRuns s.groupBy)
  have horder : placeholders (listTokens .orderBy ((s.placed style).orderBy.map OrderItem.tokens)) =
      [] := by
    apply placeholders_listTokens
    apply placeholders_separated
    intro r hr
    obtain ⟨i, _, rfl⟩ := List.mem_map.mp hr
    exact i.placeholders_tokens
  rw [Outline.tokens_eq, hhead, Outline.bodies]
  simp only [Token.placeholders_append, placeholders_headTokens, hgroup, horder,
    placeholders_joinLines, placeholders_optionLines, List.flatMap_append, List.nil_append,
    List.append_nil]

/-! ## The law -/

/-- A statement and its predicates by themselves. -/
structure ComposedOf (s : Statement) (l : Layout) (r : Rendered) : Prop where
  /-- Each predicate renders by itself. -/
  alone_eq : ∀ p ∈ s.predicates, p.render l = .ok ((p.alone l.paramStyle).rendered l)
  /-- The values are those of the predicates, one predicate after the other. -/
  values_eq : r.parameters.map Parameter.value =
    s.predicates.flatMap fun p => (p.alone l.paramStyle).values
  /-- The tokens are those of the outline with each predicate in its place, -/
  tokens_eq : s.fragment l.paramStyle = .ok ⟨(s.placed l.paramStyle).tokens,
    Parameter.listFrom 0 (s.predicates.flatMap fun p => (p.alone l.paramStyle).values)⟩
  text_eq : r.commandText = Token.textOf l (s.placed l.paramStyle).tokens
  /-- where the indices of a predicate are raised by the number of values of those before it. -/
  bodies_eq : ∀ k : Nat, (s.placed l.paramStyle).bodies[k]? = s.predicates[k]?.map fun p =>
    (p.alone l.paramStyle).tokens.map
      (Token.raised (total (Predicate.bound l.paramStyle) (s.predicates.take k)))
  /-- No placeholder stands anywhere else. -/
  placeholders_eq : placeholders (s.placed l.paramStyle).tokens =
    (s.placed l.paramStyle).bodies.flatMap placeholders

end Statement

/-- **Rendering a statement puts renderings of predicates together**: join conditions, WHERE and
HAVING, each as it is by itself with its indices raised by the number of values before it. Nothing
else in a statement binds a value. A combined predicate is put together from its operands in the
same way. -/
theorem rendering_composes (l : Layout) :
    (∀ (s : Statement) (r : Rendered), s.render l = .ok r → s.ComposedOf l r) ∧
    (∀ (s t : Statement) (r q : Rendered), s.render l = .ok r → t.render l = .ok q →
      s.predicates = t.predicates → r.parameters = q.parameters) ∧
    ∀ (logic : Logic) (p q : Predicate) (f : Fragment),
      (Predicate.combine logic p q).fragment l.paramStyle 0 = .ok f ↔
        p.fragment l.paramStyle 0 = .ok (p.alone l.paramStyle) ∧
        q.fragment l.paramStyle 0 = .ok (q.alone l.paramStyle) ∧
        f.parameters = (p.alone l.paramStyle).parameters ++
          (q.alone l.paramStyle).parameters.map (Parameter.raised (p.bound l.paramStyle)) ∧
        f.tokens = p.operand (p.alone l.paramStyle).tokens ++
          [.space, .keyword logic.keyword, .space] ++
          q.operand ((q.alone l.paramStyle).tokens.map (Token.raised (p.bound l.paramStyle))) := by
  refine ⟨fun s r h => ?_, fun s t r q hs ht h => ?_,
    fun logic p q f => Predicate.fragment_combine_iff⟩
  · obtain ⟨-, f, hf, rfl⟩ := Statement.render_eq_ok_iff.mp h
    have hc := Statement.composed_of_fragment hf
    constructor
    case alone_eq => exact fun p hp => Predicate.render_alone (hc.alone_eq p hp)
    case values_eq => exact hc.values_eq
    case tokens_eq => rw [hf, ← hc.values_eq, ← hc.tokens_eq, ← Statement.parameters_of_fragment hf]
    case text_eq => rw [← hc.tokens_eq]; rfl
    case bodies_eq => exact s.getElem?_bodies_placed l.paramStyle
    case placeholders_eq => exact s.placeholders_tokens_placed l.paramStyle
  · obtain ⟨-, f, hf, rfl⟩ := Statement.render_eq_ok_iff.mp hs
    obtain ⟨-, g, hg, rfl⟩ := Statement.render_eq_ok_iff.mp ht
    have hv : f.values = g.values := by
      rw [(Statement.composed_of_fragment hf).values_eq, h,
        (Statement.composed_of_fragment hg).values_eq]
    exact (Statement.parameters_of_fragment hf).trans
      (hv ▸ (Statement.parameters_of_fragment hg).symm)

/-- A join, WHERE and HAVING, each with values of its own. -/
def Statement.threefold : Statement :=
  ((withPassports (.idBelow .passports .null)).edit (.filter (.term (.doubled (.bool true))))).edit
    (.having (.doubled .null (.text "a")))

/-- HAVING binds two values by itself, and comes after two. -/
theorem rendering_composes_threefold :
    ∃ r, Statement.threefold.render {} = .ok r ∧
      r.parameters.map Parameter.value = [.null, .bool true, .null, .text "a"] ∧
      placeholders ((Predicate.doubled .null (.text "a")).alone .indexed).tokens = [0, 0, 1, 1] ∧
      (Statement.threefold.placed .indexed).having.map placeholders = some [2, 2, 3, 3] ∧
      Statement.threefold.ComposedOf {} r := by
  obtain ⟨r, hr⟩ : ∃ r, Statement.threefold.render {} = .ok r := ⟨_, rfl⟩
  have h := (rendering_composes {}).1 _ r hr
  exact ⟨r, hr, h.values_eq.trans rfl, rfl, rfl, h⟩

end SelectQuery
