import SelectQuery.Proofs.Fragments
import SelectQuery.Proofs.Wording.Literals

/-!
# The texts of built-in terms

The terms for comparison, containment and null tests stand alone under every style, as long as the
aliases and columns in them are names.

* `Field.standsAlone_text`, `Term.standsAlone_slot`: what fills a slot;
* `Term.exists_of_spelled_slot`, `Term.exists_of_spelled_text`: the text of a term, part by part;
* `Term.StandsAlone`: the text of a term stands alone wherever it is rendered;
* `Predicate.standsAlone_comparison`, `Predicate.standsAlone_contains`,
  `Predicate.standsAlone_isNull`, `Predicate.standsAlone_isNotNull`: the built-in terms do.
-/

namespace SelectQuery

open Wording (isWordChar items? lexemes_word items?_eq_some_iff standsAlone_literal
  standsAlone_placeholder)

namespace Token

theorem textOf_cons (l : Layout) (t : Token) (ts : List Token) :
    textOf l (t :: ts) = t.text l ++ textOf l ts := by
  simp [textOf]

@[simp]
theorem textOf_nil (l : Layout) : textOf l [] = "" := rfl

@[simp]
theorem textOf_singleton (l : Layout) (t : Token) : textOf l [t] = t.text l := by
  rw [textOf_cons, textOf_nil, String.append_empty]

end Token

/-! ## Fields -/

/-- A text of the characters that a qualified name has. -/
def IsName (s : String) : Prop := ∀ c ∈ s.toList, isWordChar c

instance : DecidablePred IsName := fun s =>
  List.decidableBAll (fun c => isWordChar c = true) s.toList

namespace Wording

/-- A word with a dot in it is no connective. -/
theorem logic?_of_dot_mem {s : List Char} (h : '.' ∈ s) : (Atom.word s).logic? = none := by
  rw [Atom.logic?, List.find?_eq_none]
  intro g _ he
  have hd : '.' ∈ s.map Char.toUpper := List.mem_map_of_mem (f := Char.toUpper) h
  rw [of_decide_eq_true he] at hd
  revert hd
  cases g <;> decide

theorem standsAlone_qualified {s t : String} (hs : IsName s) (ht : IsName t) :
    StandsAlone (s ++ "." ++ t).toList := by
  have hl : (s ++ "." ++ t).toList = s.toList ++ '.' :: t.toList := by simp
  have hw : ∀ c ∈ s.toList ++ '.' :: t.toList, isWordChar c := by
    intro c hc
    rw [List.mem_append, List.mem_cons] at hc
    rcases hc with hc | rfl | hc
    · exact hs c hc
    · decide
    · exact ht c hc
  have hlogic := logic?_of_dot_mem (s := s.toList ++ '.' :: t.toList) (by simp)
  rw [hl]
  obtain ⟨c, cs, he⟩ := List.exists_cons_of_ne_nil (l := s.toList ++ '.' :: t.toList) (by simp)
  rw [he] at hw hlogic ⊢
  exact ⟨.atom (.word (c :: cs)) .nil, items?_eq_some_iff.mpr (lexemes_word hw),
    by simp [Items.isOrFree, hlogic]⟩

end Wording

namespace Field

theorem textOf_tokens (l : Layout) (f : Field) : Token.textOf l f.tokens = f.text := by
  have hk : ∀ g : Aggregate, Text.upperCase g.keyword = g.keyword := by
    intro g
    cases g <;> decide
  unfold tokens text
  cases f.aggregate with
  | none => simp [Token.textOf_cons, Token.text, String.append_assoc]
  | some g => simp [Token.textOf_cons, Token.text, hk, String.append_assoc]

/-- The alias and the column are names. -/
structure IsNamed (f : Field) : Prop where
  qualifier : IsName f.qualifier.value
  column : IsName f.column

/-- **A field stands alone.** -/
theorem standsAlone_text {f : Field} (h : f.IsNamed) : Wording.StandsAlone f.text.toList := by
  have hc := Wording.standsAlone_qualified h.qualifier h.column
  unfold text
  cases f.aggregate with
  | none => exact hc
  | some g =>
    have hg : Wording.StandsAlone g.keyword.toList := by cases g <;> decide
    obtain ⟨i, hi, -⟩ := hc
    simpa using hg.append_parenthesized hi

end Field

/-! ## Slots -/

namespace Term

/-- What fills a slot of a term whose fields are named. -/
theorem standsAlone_slot {t : Term} (h : ∀ f, .field f ∈ t.arguments → f.IsNamed) {n : Nat}
    {ts : List Token} (hs : t.Spells (.slot n) ts) (l : Layout) :
    Wording.StandsAlone (Token.textOf l ts).toList := by
  cases hs with
  | absent _ => exact (by decide : Wording.StandsAlone [])
  | field ha =>
    rw [Field.textOf_tokens]
    exact Field.standsAlone_text (h _ (List.mem_of_getElem? ha))
  | inlined _ hs =>
    rw [Token.textOf_singleton]
    exact standsAlone_literal hs
  | bound _ i =>
    rw [Token.textOf_singleton]
    exact standsAlone_placeholder l.paramStyle i

/-- The text behind a text. -/
theorem exists_of_spelled_text {t : Term} {s : String} {ps : List Template.Part} {ts : List Token}
    (h : t.Spelled (.text s :: ps) ts) (l : Layout) :
    ∃ us, t.Spelled ps us ∧
      (Token.textOf l ts).toList = s.toList ++ (Token.textOf l us).toList := by
  cases h with
  | cons hp hps =>
    cases hp
    refine ⟨_, hps, ?_⟩
    rw [Token.textOf_append, Token.textOf_singleton, String.toList_append]
    rfl

/-- The text behind a slot. -/
theorem exists_of_spelled_slot {t : Term} (h : ∀ f, .field f ∈ t.arguments → f.IsNamed) {n : Nat}
    {ps : List Template.Part} {ts : List Token} (ht : t.Spelled (.slot n :: ps) ts) (l : Layout) :
    ∃ cs us, Wording.StandsAlone cs ∧ t.Spelled ps us ∧
      (Token.textOf l ts).toList = cs ++ (Token.textOf l us).toList := by
  cases ht with
  | cons hp hps =>
    exact ⟨_, _, standsAlone_slot h hp l, hps, by rw [Token.textOf_append, String.toList_append]⟩

theorem exists_of_spelled_append {t : Term} {ps qs : List Template.Part} {ts : List Token}
    (h : t.Spelled (ps ++ qs) ts) :
    ∃ us vs, t.Spelled ps us ∧ t.Spelled qs vs ∧ ts = us ++ vs := by
  induction ps generalizing ts with
  | nil => exact ⟨[], ts, .nil, h, rfl⟩
  | cons p ps ih =>
    cases h with
    | cons hp hps =>
      obtain ⟨us, vs, hu, hv, rfl⟩ := ih hps
      exact ⟨_ ++ us, vs, .cons hp hu, hv, (List.append_assoc ..).symm⟩

theorem textOf_of_spelled_nil {t : Term} {ts : List Token} (h : t.Spelled [] ts) (l : Layout) :
    (Token.textOf l ts).toList = [] := by
  cases h
  rfl

/-- The text of a term stands alone wherever it is rendered. -/
def StandsAlone (l : Layout) (t : Term) : Prop :=
  ∀ next f, t.fragment l.paramStyle next = .ok f →
    Wording.StandsAlone (Token.textOf l f.tokens).toList

/-! ## Forms of terms -/

variable {t : Term} {ts : List Token} (l : Layout)

/-- A slot with a text behind it. -/
theorem standsAlone_postfix (h : ∀ f, .field f ∈ t.arguments → f.IsNamed) {n : Nat} {s : String}
    (hs : Wording.StandsAlone s.toList) (ht : t.Spelled [.slot n, .text (" " ++ s)] ts) :
    Wording.StandsAlone (Token.textOf l ts).toList := by
  obtain ⟨cs, us, hc, hu, he⟩ := exists_of_spelled_slot h ht l
  obtain ⟨vs, hv, he'⟩ := exists_of_spelled_text hu l
  rw [he, he', textOf_of_spelled_nil hv]
  simpa using hc.append_space hs

/-- Two slots with a text between them. -/
theorem standsAlone_infix (h : ∀ f, .field f ∈ t.arguments → f.IsNamed) {m n : Nat} {s : String}
    (hs : Wording.StandsAlone s.toList)
    (ht : t.Spelled [.slot m, .text (" " ++ s ++ " "), .slot n] ts) :
    Wording.StandsAlone (Token.textOf l ts).toList := by
  obtain ⟨cs, us, hc, hu, he⟩ := exists_of_spelled_slot h ht l
  obtain ⟨vs, hv, he'⟩ := exists_of_spelled_text hu l
  obtain ⟨ds, ws, hd, hw, he''⟩ := exists_of_spelled_slot h hv l
  rw [he, he', he'', textOf_of_spelled_nil hw]
  simpa using hc.append_space (hs.append_space hd)

/-- Slots with commas between them. -/
theorem standsAlone_list (h : ∀ f, .field f ∈ t.arguments → f.IsNamed) (ns : List Nat)
    (ht : t.Spelled ((ns.map Template.Part.slot).intersperse (.text ",")) ts) :
    Wording.StandsAlone (Token.textOf l ts).toList := by
  induction ns generalizing ts with
  | nil =>
    rw [textOf_of_spelled_nil ht]
    decide
  | cons n ns ih =>
    cases ns with
    | nil =>
      obtain ⟨cs, us, hc, hu, he⟩ := exists_of_spelled_slot h ht l
      rwa [he, textOf_of_spelled_nil hu, List.append_nil]
    | cons m ns =>
      obtain ⟨cs, us, hc, hu, he⟩ := exists_of_spelled_slot h ht l
      obtain ⟨vs, hv, he'⟩ := exists_of_spelled_text hu l
      rw [he, he']
      exact hc.append_comma (ih hv)

/-- A slot with a word and a list in parentheses behind it. -/
theorem standsAlone_membership (h : ∀ f, .field f ∈ t.arguments → f.IsNamed) {n : Nat} {s : String}
    (hs : Wording.StandsAlone s.toList) (ns : List Nat)
    (ht : t.Spelled (.slot n :: .text (" " ++ s ++ " (") ::
      ((ns.map Template.Part.slot).intersperse (.text ",") ++ [.text ")"])) ts) :
    Wording.StandsAlone (Token.textOf l ts).toList := by
  obtain ⟨cs, us, hc, hu, he⟩ := exists_of_spelled_slot h ht l
  obtain ⟨vs, hv, he'⟩ := exists_of_spelled_text hu l
  obtain ⟨ws, xs, hw, hx, rfl⟩ := exists_of_spelled_append hv
  obtain ⟨ys, hy, he''⟩ := exists_of_spelled_text hx l
  obtain ⟨i, hi, -⟩ := standsAlone_list l h ns hw
  have hempty : Wording.StandsAlone [] := by decide
  have hword := (hc.append_space (hs.append_space hempty)).append_parenthesized hi
  have hlist : (Token.textOf l (ws ++ xs)).toList = (Token.textOf l ws).toList ++ [')'] := by
    rw [Token.textOf_append, String.toList_append, he'', textOf_of_spelled_nil hy]
    rfl
  rw [he, he', hlist]
  simpa using hword

end Term

/-! ## Built-in terms -/

theorem Field.isNamed_of_mem_cons {f : Field} {as : List Argument} (hf : f.IsNamed)
    (ha : ∀ g, .field g ∈ as → g.IsNamed) : ∀ g, .field g ∈ .field f :: as → g.IsNamed := by
  intro g hg
  rcases List.mem_cons.mp hg with he | hg
  · exact Argument.field.inj he ▸ hf
  · exact ha g hg

/-- A field with a text behind it. -/
theorem Term.standsAlone_test (l : Layout) {f : Field} (hf : f.IsNamed) {s : String}
    (hs : Wording.StandsAlone s.toList) :
    (Term.ofParts [.slot 0, .text (" " ++ s)] [.field f]).StandsAlone l := by
  intro next g hg
  refine Term.standsAlone_postfix l ?_ hs (Term.spelled_of_fragment hg)
  exact Field.isNamed_of_mem_cons hf fun _ h => absurd h List.not_mem_nil

namespace Predicate

variable (l : Layout) {f : Field} {t : Term}

theorem standsAlone_comparison (hf : f.IsNamed) {op : Comparison} {a : Argument}
    (ha : ∀ g, a = .field g → g.IsNamed) (ht : comparison f op a = .term t) : t.StandsAlone l := by
  obtain rfl := Predicate.term.inj ht
  intro next g hg
  have hop : Wording.StandsAlone op.sql.toList := by
    cases op with
    | compare op => cases op <;> decide
    | like | notLike => decide
  apply Term.standsAlone_infix l _ hop (Term.spelled_of_fragment hg)
  apply Field.isNamed_of_mem_cons hf
  intro g hg
  exact ha g (List.mem_singleton.mp hg).symm

theorem standsAlone_contains (hf : f.IsNamed) {op : Containment} {vs : List Value} {p : Predicate}
    (h : contains f op vs = .ok p) : ∃ t, p = .term t ∧ t.StandsAlone l := by
  unfold contains at h
  split at h
  · cases h
  · obtain rfl := Except.ok.inj h
    refine ⟨_, rfl, ?_⟩
    intro next g hg
    have hop : Wording.StandsAlone op.sql.toList := by cases op <;> decide
    have hs := Term.spelled_of_fragment hg
    rw [Term.ofParts, listParts, List.append_assoc] at hs
    refine Term.standsAlone_membership l ?_ hop _ hs
    apply Field.isNamed_of_mem_cons hf
    intro g hg
    obtain ⟨v, -, hv⟩ := List.mem_map.mp hg
    cases hv

theorem standsAlone_isNull (hf : f.IsNamed) (ht : isNull f = .term t) : t.StandsAlone l := by
  obtain rfl := Predicate.term.inj ht
  exact Term.standsAlone_test l hf (s := "IS NULL") (by decide)

theorem standsAlone_isNotNull (hf : f.IsNamed) (ht : isNotNull f = .term t) : t.StandsAlone l := by
  obtain rfl := Predicate.term.inj ht
  exact Term.standsAlone_test l hf (s := "IS NOT NULL") (by decide)

end Predicate

end SelectQuery
