import SelectQuery.Proofs.Scope
import SelectQuery.Proofs.Wording.Terms

/-!
# Lists of values

A test for containment has one slot for each value of its list, equal values and nulls included.

* `Draft.fill_eq_positional`: where no site comes twice, every style that binds counts its
  placeholders;
* `Predicate.template_membership`, `Predicate.draft_membership`: the template of the test, and its
  tokens before the values are spelled;
* `containment_binds_in_order`: each value is bound where it stands, whatever was bound before.
-/

namespace SelectQuery

/-! ## Separators -/

theorem map_intersperse {α β : Type} (f : α → β) (sep : α) (xs : List α) :
    (xs.intersperse sep).map f = (xs.map f).intersperse (f sep) := by
  induction xs with
  | nil => rfl
  | cons x xs ih =>
    cases xs with
    | nil => rfl
    | cons y ys => simpa [List.intersperse_cons_cons] using ih

theorem join_intersperse (sep : String) (ss : List String) :
    String.join (ss.intersperse sep) = sep.intercalate ss := by
  induction ss with
  | nil => rfl
  | cons s ss ih =>
    cases ss with
    | nil => simp
    | cons t ts =>
      rw [List.intersperse_cons_cons, String.join_cons, String.join_cons, ih,
        String.intercalate_cons_cons, String.append_assoc]

theorem Token.textOf_intersperse (l : Layout) (sep : Token) (ts : List Token) :
    textOf l (ts.intersperse sep) = (sep.text l).intercalate (ts.map (text l)) := by
  rw [textOf, map_intersperse, join_intersperse]

/-! ## Drafts without repetitions -/

namespace Draft

/-- Sites that are new, and different from each other, are counted one by one. -/
theorem shared_eq_positional {base : Nat} {seen : List Site} {ds : Draft}
    (hn : ((literals ds).map Literal.site).Nodup)
    (hs : ∀ σ ∈ (literals ds).map Literal.site, σ ∉ seen) :
    shared base seen ds = positional (base + seen.length) ds := by
  induction ds generalizing seen with
  | nil => rfl
  | cons c ds ih =>
    cases c with
    | token t =>
      have hc : Cell.token t :: ds = ofTokens [t] ++ ds := rfl
      rw [hc, shared_ofTokens_append, positional_ofTokens_append, ih hn hs]
    | literal o =>
      have hl : (literals (.literal o :: ds)).map Literal.site =
        o.site :: (literals ds).map Literal.site := rfl
      rw [hl] at hn hs
      obtain ⟨ho, hn⟩ := List.nodup_cons.mp hn
      have hseen : o.site ∉ seen := hs _ (List.mem_cons_self ..)
      -- the site is seen from here on, and none of the later ones is equal to it
      have hrest : ∀ σ ∈ (literals ds).map Literal.site, σ ∉ seen ++ [o.site] := by
        intro σ hσ hm
        rcases List.mem_append.mp hm with hm | hm
        · exact hs σ (List.mem_cons_of_mem _ hσ) hm
        · exact ho (List.mem_singleton.mp hm ▸ hσ)
      rw [shared_cons_of_notMem _ _ _ _ hseen, positional_cons, ih hn hrest, List.length_append,
        List.length_singleton, Nat.add_assoc]

/-- **Where no site comes twice**, the styles that bind agree. -/
theorem fill_eq_positional {style : ParamStyle} (hs : style ≠ .inline) (next : Nat) {ds : Draft}
    (hn : ((literals ds).map Literal.site).Nodup) :
    fill style next ds = .ok (positional next ds) := by
  have hshared : shared next [] ds = positional next ds :=
    shared_eq_positional hn fun _ _ => List.not_mem_nil
  cases style with
  | inline => exact absurd rfl hs
  | question => rfl
  | indexed | atP | dollar => exact congrArg Except.ok hshared

/-- Literals with commas between them. -/
def listed (os : List Literal) : Draft := (os.map Cell.literal).intersperse (.token (.raw ","))

theorem listed_cons_cons (o p : Literal) (os : List Literal) :
    listed (o :: p :: os) = .literal o :: .token (.raw ",") :: listed (p :: os) := rfl

theorem literals_listed (os : List Literal) : literals (listed os) = os := by
  induction os with
  | nil => rfl
  | cons o os ih =>
    cases os with
    | nil => rfl
    | cons p os => exact congrArg (o :: ·) ih

theorem spell_listed (f : Literal → Token) (os : List Literal) :
    spell f (listed os) = (os.map f).intersperse (.raw ",") := by
  rw [spell, listed, map_intersperse, List.map_map]
  rfl

theorem counted_listed (next : Nat) (os : List Literal) :
    counted next (listed os) =
      ((List.range' next os.length).map Token.placeholder).intersperse (.raw ",") := by
  induction os generalizing next with
  | nil => rfl
  | cons o os ih =>
    cases os with
    | nil => rfl
    | cons p os =>
      rw [listed_cons_cons, counted, counted, ih]
      rfl

end Draft

/-! ## The term -/

namespace Template

/-- A slot as a template writes it. -/
def slotText (n : Nat) : String := "\x7b" ++ toString n ++ "\x7d"

theorem ofList_writePart_slot (n : Nat) : String.ofList (writePart (.slot n)) = slotText n := by
  rw [writePart, slotText, Nat.toString_eq_repr, Nat.repr_eq_ofList_toDigits]
  simp [String.ofList_append, String.ofList_cons, String.append_assoc]

theorem write_eq_join (parts : List Part) :
    write parts = String.join (parts.map fun p => String.ofList (writePart p)) := by
  rw [write]
  induction parts with
  | nil => rfl
  | cons p ps ih =>
    rw [List.flatMap_cons, String.ofList_append, ih, List.map_cons, String.join_cons]

end Template

namespace Predicate

open Template (Part slotText)

/-- The term of a test for containment. -/
def membership (f : Field) (op : Containment) (vs : List Value) : Term :=
  Term.ofParts (listParts op vs.length) (.field f :: vs.map Argument.literal)

variable {f : Field} {op : Containment} {vs : List Value}

theorem contains_nil (f : Field) (op : Containment) :
    contains f op [] = .error (.invalidFilter ("\x7b0\x7d " ++ op.sql ++ " ()")
      s!"{op.sql} list for '{f.text}' is empty") := rfl

theorem contains_of_ne_nil (h : vs ≠ []) : contains f op vs = .ok (term (membership f op vs)) :=
  if_neg h

/-- **The template of a test for containment.** -/
theorem template_membership (f : Field) (op : Containment) (vs : List Value) :
    (membership f op vs).template = "\x7b0\x7d " ++ op.sql ++ " (" ++
      ",".intercalate ((List.range' 1 vs.length).map slotText) ++ ")" := by
  have hop : String.ofList (Template.writePart (.text (" " ++ op.sql ++ " ("))) =
      " " ++ op.sql ++ " (" := by
    cases op <;> decide
  have hcomma : String.ofList (Template.writePart (.text ",")) = "," := by decide
  have hclose : String.ofList (Template.writePart (.text ")")) = ")" := by decide
  have hzero : slotText 0 ++ " " = "\x7b0\x7d " := by decide
  have hslots : ((List.range' 1 vs.length).map Part.slot).map
      (fun p => String.ofList (Template.writePart p)) =
        (List.range' 1 vs.length).map slotText := by
    rw [List.map_map]
    exact List.map_congr_left fun n _ => Template.ofList_writePart_slot n
  rw [membership, Term.ofParts, Template.write_eq_join, listParts, List.map_append,
    List.map_append, map_intersperse, hslots, hcomma, String.join_append, String.join_append,
    join_intersperse]
  simp only [List.map_cons, List.map_nil, String.join_cons, String.join_nil, hop, hclose,
    Template.ofList_writePart_slot, String.append_empty, ← hzero]
  simp only [String.append_assoc]

/-- The literals of a list of values, the first of which fills the slot `m`. -/
def listLiterals (template : String) (k m : Nat) (vs : List Value) : List Literal :=
  (vs.zipIdx m).map fun (v, n) => ⟨⟨k, n⟩, template, v⟩

theorem values_listLiterals (template : String) (k m : Nat) (vs : List Value) :
    (listLiterals template k m vs).map Literal.value = vs := by
  rw [listLiterals, List.map_map]
  exact List.zipIdx_map_fst m vs

theorem nodup_listLiterals (template : String) (k m : Nat) (vs : List Value) :
    ((listLiterals template k m vs).map Literal.site).Nodup := by
  have hs : (listLiterals template k m vs).map Literal.site =
      (List.range' m vs.length).map (Site.mk k) := by
    rw [listLiterals, List.map_map, ← List.zipIdx_map_snd m vs, List.map_map]
    rfl
  rw [hs]
  exact (List.nodup_range').map fun _ _ h => (Site.mk.inj h).2

theorem flatMap_partDraft_slots {t : Term} (k : Nat) {m : Nat}
    (h : t.arguments.drop m = vs.map Argument.literal) :
    (((List.range' m vs.length).map Part.slot).intersperse (.text ",")).flatMap (t.partDraft k) =
      Draft.listed (listLiterals t.template k m vs) := by
  induction vs generalizing m with
  | nil => rfl
  | cons v vs ih =>
    have hv : t.arguments[m]? = some (.literal v) := by
      have h0 := congrArg (·[0]?) h
      simpa using h0
    have hslot : t.partDraft k (.slot m) = [.literal ⟨⟨k, m⟩, t.template, v⟩] := by
      rw [Term.partDraft, hv]
    have htail : t.arguments.drop (m + 1) = vs.map Argument.literal := by
      rw [← List.drop_drop, h, List.map_cons, List.drop_succ_cons, List.drop_zero]
    cases vs with
    | nil => exact (List.append_nil _).trans hslot
    | cons w ws =>
      -- a comma stands only in front of a further slot, so two are needed to see it
      have hl : (List.range' m (v :: w :: ws).length).map Part.slot =
          .slot m :: .slot (m + 1) :: (List.range' (m + 1 + 1) ws.length).map Part.slot := rfl
      rw [hl, List.intersperse_cons_cons, List.flatMap_cons, List.flatMap_cons, hslot]
      exact congrArg (.literal ⟨⟨k, m⟩, t.template, v⟩ :: .token (.raw ",") :: ·) (ih htail)

/-- **The tokens of a test for containment**, before its values are spelled. -/
theorem draft_membership (f : Field) (op : Containment) (vs : List Value) (k : Nat) :
    (membership f op vs).draft k =
      Draft.ofTokens (f.tokens ++ [.raw (" " ++ op.sql ++ " (")]) ++
        (Draft.listed (listLiterals (membership f op vs).template k 1 vs) ++
          Draft.ofTokens [.raw ")"]) := by
  have h : (membership f op vs).arguments.drop 1 = vs.map Argument.literal := rfl
  rw [← flatMap_partDraft_slots k h, Term.draft, show (membership f op vs).parts =
    listParts op vs.length from rfl, listParts, List.flatMap_append, List.flatMap_append,
    List.append_assoc]
  congr 1
  rw [Draft.ofTokens, List.map_append]
  rfl

/-- The tokens of a test for containment, from those of its values. -/
def listTokens (f : Field) (op : Containment) (ts : List Token) : List Token :=
  f.tokens ++ [.raw (" " ++ op.sql ++ " (")] ++ ts.intersperse (.raw ",") ++ [.raw ")"]

theorem textOf_listTokens (l : Layout) (f : Field) (op : Containment) (ts : List Token) :
    Token.textOf l (listTokens f op ts) = f.text ++ " " ++ op.sql ++ " (" ++
      ",".intercalate (ts.map (Token.text l)) ++ ")" := by
  simp only [listTokens, Token.textOf_append, Token.textOf_intersperse, Field.textOf_tokens,
    Token.textOf_singleton, Token.text, String.append_assoc]

section

variable (f : Field) (op : Containment) (vs : List Value)

theorem literals_membership (k : Nat) : Draft.literals ((membership f op vs).draft k) =
    listLiterals (membership f op vs).template k 1 vs := by
  rw [draft_membership]
  simp [Draft.literals_listed]

theorem counted_membership (k next : Nat) :
    Draft.counted next ((membership f op vs).draft k) =
      listTokens f op ((List.range' next vs.length).map Token.placeholder) := by
  rw [draft_membership, Draft.counted_append, Draft.counted_append, Draft.counted_ofTokens,
    Draft.counted_ofTokens, Draft.counted_listed, Draft.literals_ofTokens, List.length_nil,
    Nat.add_zero, listLiterals, List.length_map, List.length_zipIdx, listTokens]
  simp only [List.append_assoc]

theorem spell_membership (g : Literal → Token) (k : Nat) :
    Draft.spell g ((membership f op vs).draft k) =
      listTokens f op ((listLiterals (membership f op vs).template k 1 vs).map g) := by
  rw [draft_membership]
  simp only [Draft.spell_append, Draft.spell_ofTokens, Draft.spell_listed, listTokens,
    List.append_assoc]

/-- **A test for containment under a style that binds.** -/
theorem fragment_membership {style : ParamStyle} (hs : style ≠ .inline) (next : Nat) :
    (term (membership f op vs)).fragment style next =
      .ok ⟨listTokens f op ((List.range' next vs.length).map Token.placeholder),
        Parameter.listFrom next vs⟩ := by
  have hn : ((Draft.literals ((membership f op vs).draft 0)).map Literal.site).Nodup := by
    rw [literals_membership]
    exact nodup_listLiterals _ 0 1 vs
  calc (term (membership f op vs)).fragment style next
      = Draft.fill style next ((membership f op vs).draft 0) := Term.fragment_eq_fill _ 0 style next
    _ = .ok (Draft.positional next ((membership f op vs).draft 0)) :=
        Draft.fill_eq_positional hs next hn
    _ = .ok ⟨listTokens f op ((List.range' next vs.length).map Token.placeholder),
          Parameter.listFrom next vs⟩ := by
        rw [Draft.positional, counted_membership, literals_membership, values_listLiterals]

end

end Predicate

/-- **A test for containment binds one placeholder for each value, in order.** It is refused just
for the empty list. Its template has a slot for each value, and under every style that binds, the
values come into the statement one by one, with the indices that follow those bound before. -/
theorem containment_binds_in_order (f : Field) (op : Containment) (vs : List Value) :
    ((∃ template reason, Predicate.contains f op vs = .error (.invalidFilter template reason)) ↔
      vs = []) ∧
    (vs ≠ [] → ∃ t, Predicate.contains f op vs = .ok (.term t) ∧
      t.template = "\x7b0\x7d " ++ op.sql ++ " (" ++
        ",".intercalate ((List.range' 1 vs.length).map Template.slotText) ++ ")" ∧
      t.arguments = .field f :: vs.map Argument.literal ∧
      ∀ (l : Layout) (k : Nat), l.paramStyle ≠ .inline →
        ∃ g, (Predicate.term t).fragment l.paramStyle k = .ok g ∧
          g.tokens = f.tokens ++ [.raw (" " ++ op.sql ++ " (")] ++
            ((List.range' k vs.length).map Token.placeholder).intersperse (.raw ",") ++
              [.raw ")"] ∧
          g.parameters = Parameter.listFrom k vs ∧ g.values = vs ∧
          Token.textOf l g.tokens = f.text ++ " " ++ op.sql ++ " (" ++
            ",".intercalate ((List.range' k vs.length).map l.paramStyle.placeholder) ++ ")") := by
  constructor
  · constructor
    · rintro ⟨template, reason, h⟩
      by_contra hne
      rw [Predicate.contains_of_ne_nil hne] at h
      cases h
    · rintro rfl
      exact ⟨_, _, Predicate.contains_nil f op⟩
  · intro h
    refine ⟨_, Predicate.contains_of_ne_nil h, Predicate.template_membership f op vs, rfl, ?_⟩
    intro l k hl
    refine ⟨_, Predicate.fragment_membership f op vs hl k, rfl, rfl,
      Parameter.map_value_listFrom k vs, ?_⟩
    have hp : ((List.range' k vs.length).map Token.placeholder).map (Token.text l) =
        (List.range' k vs.length).map l.paramStyle.placeholder := by
      rw [List.map_map]
      rfl
    rw [Predicate.textOf_listTokens, hp]

/-- One value twice, and null, after two parameters. -/
theorem containment_binds_in_order_repeated :
    ∃ t, Predicate.contains (.id .people) .notIn [.int 7, .int 7, .null] = .ok (.term t) ∧
      t.template = "\x7b0\x7d NOT IN (\x7b1\x7d,\x7b2\x7d,\x7b3\x7d)" ∧
      ∃ g, (Predicate.term t).fragment .dollar 2 = .ok g ∧
        g.parameters = [⟨2, .int 7⟩, ⟨3, .int 7⟩, ⟨4, .null⟩] ∧
        Token.textOf { paramStyle := .dollar } g.tokens = "pe.id NOT IN ($3,$4,$5)" := by
  obtain ⟨t, hc, ht, -, hf⟩ := (containment_binds_in_order (.id .people) .notIn
    [.int 7, .int 7, .null]).2 (by simp)
  obtain ⟨g, hg, -, hp, -, htext⟩ := hf { paramStyle := .dollar } 2 (by decide)
  exact ⟨t, hc, ht.trans (by decide), g, hg, hp, htext.trans (by decide)⟩

end SelectQuery
