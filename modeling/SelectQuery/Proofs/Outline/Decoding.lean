import SelectQuery.Proofs.Outline.Lines
import SelectQuery.Proofs.Outline.Reader

/-!
# What a stream determines

Two statements with one stream have the same contents, and their predicates are alike.

* `Predicate.newline_notMem`, `Statement.read_tokens`: predicates have no line breaks, so statements
  are read back;
* `Predicate.bound_eq_length`: the number of values of a predicate can be read off its placeholders;
* `Statement.contents_alone_eq_of_placed`: so what a predicate is in its place says what it is by
  itself;
* `tokens_determine_contents`: equal tokens, equal contents.
-/

namespace SelectQuery

open Token (placeholders)

/-! ## Predicates -/

theorem Term.newline_notMem {t : Term} {ps : List Template.Part} {ts : List Token}
    (h : t.Spelled ps ts) : .newline ∉ ts := by
  induction h with
  | nil => simp
  | cons hp _ ih => cases hp <;> simp [ih, Field.separator_notMem (.inr rfl)]

theorem Predicate.newline_notMem {style : ParamStyle} {n : Nat} {p : Predicate} {f : Fragment}
    (h : p.fragment style n = .ok f) : .newline ∉ f.tokens := by
  induction p generalizing n f with
  | term t => exact Term.newline_notMem (Term.spelled_of_fragment h)
  | combine logic p q ihp ihq =>
    have hoperand : ∀ (p : Predicate) (ts : List Token), .newline ∉ ts →
        .newline ∉ p.operand ts := by
      intro p ts hts
      unfold operand
      split <;> simpa using hts
    obtain ⟨g, k, hg, hk, -, ht⟩ := fragment_combine h
    simp [ht, hoperand p _ (ihp hg), hoperand q _ (ihq hk)]

namespace Statement

variable {style : ParamStyle} {s : Statement} {f : Fragment}

theorem newline_notMem_bodies (h : s.fragment style = .ok f) :
    ∀ ts ∈ (s.placed style).bodies, .newline ∉ ts := by
  intro ts hts
  rw [placed, Outline.bodies_map, Outline.bodies_numbered, bodies_outline] at hts
  obtain ⟨x, hx, rfl⟩ := List.mem_map.mp hts
  have ha := (composed_of_fragment h).alone_eq _ (mem_of_mem_offsets hx)
  have hf : x.2.fragment style x.1 = .ok ((x.2.alone style).raised x.1) :=
    Predicate.fragment_eq_ok_iff.mpr ⟨ha, rfl⟩
  exact Predicate.newline_notMem hf

theorem read_tokens (h : s.fragment style = .ok f) :
    Contents.read f.tokens = some (s.placed style).contents := by
  rw [(composed_of_fragment h).tokens_eq]
  exact Outline.read_tokens (newline_notMem_bodies h)

end Statement

/-! ## Predicates by themselves -/

/-- A token without `n` of the values before it. -/
def Token.lowered (n : Nat) : Token → Token
  | placeholder i => placeholder (i - n)
  | t => t

theorem Token.map_raised_injective (n : Nat) : Function.Injective (List.map (Token.raised n)) := by
  have h : Function.LeftInverse (Token.lowered n) (Token.raised n) := by
    intro t
    cases t <;> simp [raised, lowered]
  exact h.injective.list_map

namespace Predicate

variable {style : ParamStyle}

def aloneTokens (style : ParamStyle) (p : Predicate) : List Token := (p.alone style).tokens

/-- The number of values can be read off the placeholders. -/
theorem bound_eq_length (hs : style ≠ .inline) (p : Predicate) :
    p.bound style = (placeholders (p.aloneTokens style)).eraseDups.length := by
  obtain ⟨f, hf⟩ := Draft.fill_eq_ok hs 0 (p.draft 0)
  have hp : p.alone style = f := by
    rw [alone, p.fragment_eq_fill style 0 0, hf]
    rfl
  have hn := (Draft.numbered_fill hs (p.literals_draft 0) (p.unbound_draft 0) hf).firsts_eq
  rw [bound, aloneTokens, hp, hn, List.length_range]

theorem bound_eq_of_aloneTokens_eq {p q : Predicate}
    (h : p.aloneTokens style = q.aloneTokens style) : p.bound style = q.bound style := by
  by_cases hs : style = .inline
  · rw [bound_eq_count, bound_eq_count, hs, count_inline, count_inline]
  · rw [bound_eq_length hs, bound_eq_length hs, h]

/-- What stands after as many values in two places comes from predicates that are alike by
themselves. -/
theorem aloneTokens_eq_of_placed_eq {n : Nat} {a b : Option Predicate}
    (h : (a.map (n, ·)).map (placed style) = (b.map (n, ·)).map (placed style)) :
    a.map (aloneTokens style) = b.map (aloneTokens style) ∧
      total (bound style) a.toList = total (bound style) b.toList := by
  match a, b with
  | none, none => exact ⟨rfl, rfl⟩
  | none, some _ | some _, none => cases h
  | some p, some q =>
    have hpq : p.aloneTokens style = q.aloneTokens style :=
      Token.map_raised_injective n (Option.some.inj h)
    simp [total, hpq, bound_eq_of_aloneTokens_eq hpq]

end Predicate

theorem JoinOutline.aloneTokens_eq_of_placed_eq {style : ParamStyle} {n : Nat}
    {js ks : List (JoinOutline Predicate)}
    (h : (numbered (Predicate.bound style) n js).map
        (fun j => (j.map (Predicate.placed style)).shown) =
      (numbered (Predicate.bound style) n ks).map fun j => (j.map (Predicate.placed style)).shown) :
    js.map (fun j => (j.map (Predicate.aloneTokens style)).shown) =
        ks.map (fun j => (j.map (Predicate.aloneTokens style)).shown) ∧
      total (Predicate.bound style) (js.filterMap condition) =
        total (Predicate.bound style) (ks.filterMap condition) := by
  have htotal : ∀ (j : JoinOutline Predicate) (js : List (JoinOutline Predicate)),
      total (Predicate.bound style) ((j :: js).filterMap condition) =
        total (Predicate.bound style) j.condition.toList +
          total (Predicate.bound style) (js.filterMap condition) := by
    intro j js
    cases hc : j.condition <;> simp [total, hc]
  induction js generalizing n ks with
  | nil =>
    cases ks with
    | nil => exact ⟨rfl, rfl⟩
    | cons k ks => cases h
  | cons j js ih =>
    cases ks with
    | nil => cases h
    | cons k ks =>
      simp only [numbered, List.map_cons, List.cons.injEq, shown, JoinOutline.map,
        ShownJoin.mk.injEq] at h
      obtain ⟨⟨hkind, htable, hvalue, hc⟩, h⟩ := h
      obtain ⟨hc, hn⟩ := Predicate.aloneTokens_eq_of_placed_eq hc
      -- the conditions bind equally many values, so the joins behind start from one number
      rw [hn] at h
      obtain ⟨hjs, ht⟩ := ih h
      simp only [shown, JoinOutline.map] at hjs
      simp [htotal, hn, ht, shown, JoinOutline.map, hkind, htable, hvalue, hc, hjs]

namespace Statement

/-- The outline of a statement with the tokens that each predicate has by itself. -/
def alone (style : ParamStyle) (s : Statement) : Outline (List Token) :=
  s.outline.map (Predicate.aloneTokens style)

/-- Predicates that show the same in their places show the same by themselves. -/
theorem contents_alone_eq_of_placed {style : ParamStyle} {s t : Statement}
    (h : (s.placed style).contents = (t.placed style).contents) :
    (s.alone style).contents = (t.alone style).contents := by
  simp only [placed, Outline.contents, Outline.map, Outline.numbered, List.map_map,
    Function.comp_def, Contents.mk.injEq] at h
  obtain ⟨hdistinct, htop, hfields, htable, hvalue, hjoins, hfilter, hgroup, hhaving, horder⟩ := h
  obtain ⟨hj, hn⟩ := JoinOutline.aloneTokens_eq_of_placed_eq hjoins
  rw [hn] at hfilter hhaving
  obtain ⟨hf, hm⟩ := Predicate.aloneTokens_eq_of_placed_eq hfilter
  rw [hm] at hhaving
  obtain ⟨hh, -⟩ := Predicate.aloneTokens_eq_of_placed_eq hhaving
  simp only [alone, Outline.contents, Outline.map, List.map_map, Function.comp_def,
    Contents.mk.injEq]
  exact ⟨hdistinct, htop, hfields, htable, hvalue, hj, hf, hgroup, hh, horder⟩

end Statement

/-- **The tokens of a statement determine what it contains**: the modifiers, the fields, the root,
the joins with the tokens of their conditions, the tokens of WHERE and HAVING, the groups and the
order. So two statements with one stream differ in none of this, nor in the tokens that their
predicates have by themselves. -/
theorem tokens_determine_contents (style : ParamStyle) :
    (∀ (s : Statement) (f : Fragment), s.stream style = .ok f →
      Contents.read f.tokens = some (s.placed style).contents) ∧
    ∀ (s t : Statement) (f g : Fragment), s.stream style = .ok f → t.stream style = .ok g →
      f.tokens = g.tokens →
        (s.placed style).contents = (t.placed style).contents ∧
        (s.alone style).contents = (t.alone style).contents := by
  have hread : ∀ (s : Statement) (f : Fragment), s.stream style = .ok f →
      Contents.read f.tokens = some (s.placed style).contents := by
    intro s f h
    obtain ⟨-, -, hf⟩ := exists_of_bind_eq_ok h
    exact Statement.read_tokens hf
  refine ⟨hread, fun s t f g hs ht h => ?_⟩
  have hc : (s.placed style).contents = (t.placed style).contents := by
    have hp := hread s f hs
    rw [h, hread t g ht] at hp
    exact (Option.some.inj hp).symm
  exact ⟨hc, Statement.contents_alone_eq_of_placed hc⟩

/-- The crossed statement with another value to compare with itself. -/
def Statement.recrossed : Statement := { crossed with filter := some (.doubled (.bool true) .null) }

/-- Two statements that bind different values, with one stream. -/
theorem tokens_determine_contents_crossed :
    ∃ f g, Statement.crossed.stream .question = .ok f ∧
      Statement.recrossed.stream .question = .ok g ∧ f.tokens = g.tokens ∧ f.values ≠ g.values ∧
      Contents.read f.tokens = some (Statement.recrossed.placed .question).contents ∧
      (Statement.crossed.alone .question).contents =
        (Statement.recrossed.alone .question).contents ∧
      (Statement.crossed.placed .question).contents.orderBy =
        [⟨⟨none, "pe", "id"⟩, some .desc⟩, ⟨⟨none, "pa", "id"⟩, none⟩] := by
  let f := (Statement.crossed.stream .question).toOption.getD {}
  let g := (Statement.recrossed.stream .question).toOption.getD {}
  have hf : Statement.crossed.stream .question = .ok f := rfl
  have hg : Statement.recrossed.stream .question = .ok g := rfl
  have ht : f.tokens = g.tokens := by decide +kernel
  have hv : f.values ≠ g.values := by
    show [.text "a", .text "a", .null, .null] ≠ [Value.bool true, .bool true, .null, .null]
    simp
  obtain ⟨hread, heq⟩ := tokens_determine_contents .question
  obtain ⟨hp, ha⟩ := heq _ _ f g hf hg ht
  exact ⟨f, g, hf, hg, ht, hv, (hread _ f hf).trans (congrArg some hp), ha, rfl⟩

end SelectQuery
