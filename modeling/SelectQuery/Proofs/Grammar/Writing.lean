import SelectQuery.Filter
import SelectQuery.Proofs.Grammar
import SelectQuery.Proofs.Joins
import SelectQuery.Proofs.Scope

/-!
# Writing templates

What is written for parts is a run of marks, and reading it gives the parts back.

* `toDigits_number`: the digits written for a slot are those that were read, without zeros in front;
* `spelling_write`, `parse_write_eq_ok_iff`: the marks that are written for parts, and which parts
  are read back;
* `spelling_write_of_parse`: what was read is written with the same marks, but for such zeros;
* `Predicate.Generated`: the terms that are made without a template, by filters and by joins;
* `templates_read_back`: writing and reading are inverse, and these terms are what their own
  templates say.
-/

namespace SelectQuery

namespace Template

/-! ## Digits -/

/-- Digits without the zeros in front; a single zero stays. -/
def withoutZeros : List Char → List Char
  | '0' :: d :: ds => withoutZeros (d :: ds)
  | ds => ds

theorem exists_digitChar_of_isDigit {c : Char} (h : c.isDigit = true) :
    ∃ n < 10, c = n.digitChar := by
  have hb : 48 ≤ c.toNat ∧ c.toNat ≤ 57 := Char.isDigit_iff_toNat.mp h
  have hn : c.toNat - 48 < 10 := by omega
  refine ⟨c.toNat - 48, hn, Char.toNat_inj.mp ?_⟩
  rw [Nat.toNat_digitChar_of_lt_ten hn]
  omega

/-- Further digits are written as they are. -/
theorem toDigits_ofDigitChars {ds : List Char} (hd : ∀ d ∈ ds, d.isDigit = true) {n : Nat}
    (hn : 0 < n) : Nat.toDigits 10 (Nat.ofDigitChars 10 ds n) = Nat.toDigits 10 n ++ ds := by
  induction ds generalizing n with
  | nil => simp
  | cons d ds ih =>
    obtain ⟨k, hk, rfl⟩ := exists_digitChar_of_isDigit (hd d (List.mem_cons_self ..))
    have hds : ∀ e ∈ ds, e.isDigit = true := fun e he => hd e (List.mem_cons_of_mem _ he)
    have hstep : Nat.toDigits 10 (10 * n + k) = Nat.toDigits 10 n ++ [k.digitChar] := by
      rw [← Nat.toDigits_append_toDigits (by decide) hn hk, Nat.toDigits_of_lt_base hk]
    rw [Nat.ofDigitChars_cons_digitChar_of_lt_ten hk, ih hds (by omega), hstep,
      List.append_assoc, List.singleton_append]

/-- **The number of a slot is written with its digits**, but for zeros in front. -/
theorem toDigits_number {ds : List Char} (hne : ds ≠ []) (hd : ∀ d ∈ ds, d.isDigit = true) :
    Nat.toDigits 10 (Mark.number ds) = withoutZeros ds := by
  fun_induction withoutZeros ds with
  | case1 d ds ih =>
    exact ih (by simp) fun e he => hd e (List.mem_cons_of_mem _ he)
  | case2 ds hz =>
    obtain ⟨d, ds, rfl⟩ := List.exists_cons_of_ne_nil hne
    obtain ⟨k, hk, rfl⟩ := exists_digitChar_of_isDigit (hd d (List.mem_cons_self ..))
    have hds : ∀ e ∈ ds, e.isDigit = true := fun e he => hd e (List.mem_cons_of_mem _ he)
    rw [Mark.number, Nat.ofDigitChars_cons_digitChar_of_lt_ten hk, Nat.mul_zero, Nat.zero_add]
    rcases Nat.eq_zero_or_pos k with rfl | hpos
    · cases ds with
      | nil => rfl
      | cons e ds => exact absurd rfl (hz e ds)
    · rw [toDigits_ofDigitChars hds hpos, Nat.toDigits_of_lt_base hk]
      rfl

/-! ## The marks that are written -/

namespace Mark

def ofChar (c : Char) : Mark :=
  if c = '{' then opening else if c = '}' then closing else plain c

/-- The mark that is written for a character or a slot. -/
def ofPiece : Piece → Mark
  | .char c => ofChar c
  | .slot n => slot (Nat.toDigits 10 n)

/-- A mark with the zeros in front of a slot number left out. -/
def shortened : Mark → Mark
  | slot digits => slot (withoutZeros digits)
  | m => m

theorem spelling_ofChar (c : Char) : (ofChar c).spelling = writeChar c := by
  unfold ofChar writeChar
  by_cases ho : c = '{'
  · simp [ho, spelling]
  · by_cases hc : c = '}' <;> simp [ho, hc, spelling]

theorem piece_ofChar (c : Char) : (ofChar c).piece = .char c := by
  unfold ofChar
  by_cases ho : c = '{'
  · simp [ho, piece]
  · by_cases hc : c = '}' <;> simp [ho, hc, piece]

theorem valid_ofChar (c : Char) : (ofChar c).Valid := by
  unfold ofChar
  by_cases ho : c = '{'
  · simp [ho, Valid]
  · by_cases hc : c = '}' <;> simp [ho, hc, Valid]

theorem piece_ofPiece (p : Piece) : (ofPiece p).piece = p := by
  cases p with
  | char c => exact piece_ofChar c
  | slot n => exact congrArg Piece.slot Nat.ofDigitChars_ten_toDigits

theorem valid_ofPiece {p : Piece} (h : ∀ n, p = .slot n → n < slotLimit) : (ofPiece p).Valid := by
  cases p with
  | char c => exact valid_ofChar c
  | slot n =>
    refine ⟨Nat.toDigits_ne_nil, ?_, ?_⟩
    · exact fun d hd => Nat.isDigit_of_mem_toDigits (by decide) (by decide) hd
    · rw [number, Nat.ofDigitChars_ten_toDigits]
      exact h n rfl

theorem ofPiece_piece {m : Mark} (hm : m.Valid) : ofPiece m.piece = m.shortened := by
  cases m with
  | plain c => simp [piece, ofPiece, ofChar, hm.1, hm.2, shortened]
  | opening | closing => rfl
  | slot digits => exact congrArg slot (toDigits_number hm.1 hm.2.1)

end Mark

theorem writePart_eq (p : Part) :
    writePart p = (p.pieces.map Mark.ofPiece).flatMap Mark.spelling := by
  cases p with
  | slot n => simp [writePart, Part.pieces, Mark.ofPiece, Mark.spelling]
  | text s =>
    rw [writePart, Part.pieces, List.map_map, List.flatMap_map]
    exact congrArg (s.toList.flatMap ·) (funext fun c => (Mark.spelling_ofChar c).symm)

/-- **The marks that are written for parts**, if their slot numbers can be read. -/
theorem spelling_write {parts : List Part} (h : ∀ n ∈ slots parts, n < slotLimit) :
    Spelling (write parts).toList ((parts.flatMap Part.pieces).map Mark.ofPiece) := by
  constructor
  case valid =>
    intro m hm
    obtain ⟨p, hp, rfl⟩ := List.mem_map.mp hm
    apply Mark.valid_ofPiece
    rintro n rfl
    apply h n
    rw [slots_eq, List.mem_filterMap]
    exact ⟨.slot n, hp, rfl⟩
  case eq =>
    rw [write, String.toList_ofList, List.map_flatMap, List.flatMap_assoc]
    exact congrArg (parts.flatMap ·) (funext writePart_eq)

/-! ## Reading what is written -/

theorem exists_spelling_of_parse {template : String} {parts : List Part}
    (h : parse template = .ok parts) :
    ∃ ms, Spelling template.toList ms ∧ parts = ofPieces (ms.map Mark.piece) := by
  rcases spelling_or_offence template.toList with ⟨ms, hs⟩ | ⟨front, rest, ms, fault, he, hs, ho⟩
  · rw [parse_of_spelling hs] at h
    exact ⟨ms, hs, (Except.ok.inj h).symm⟩
  · rw [parse_of_offence he hs ho] at h
    cases h

theorem slots_lt_of_parse {template : String} {parts : List Part}
    (h : parse template = .ok parts) : ∀ n ∈ slots parts, n < slotLimit := by
  obtain ⟨ms, hs, rfl⟩ := exists_spelling_of_parse h
  intro n hn
  rw [slots_ofPieces, List.mem_filterMap] at hn
  obtain ⟨m, hm, he⟩ := hn
  have hv := hs.valid m hm
  cases m with
  | slot digits =>
    obtain rfl := Option.some.inj he
    exact hv.2.2
  | plain | opening | closing => cases he

/-- **Which parts are read back**: those that have no empty and no neighbouring texts, and slot
numbers that can be read. -/
theorem parse_write_eq_ok_iff {parts : List Part} :
    parse (write parts) = .ok parts ↔ Gathered parts ∧ ∀ n ∈ slots parts, n < slotLimit := by
  constructor
  · intro h
    obtain ⟨ms, -, he⟩ := exists_spelling_of_parse h
    exact ⟨he ▸ gathered_ofPieces _, slots_lt_of_parse h⟩
  · rintro ⟨hg, hs⟩
    have hp : ((parts.flatMap Part.pieces).map Mark.ofPiece).map Mark.piece =
        parts.flatMap Part.pieces := by
      have hc : Mark.piece ∘ Mark.ofPiece = id := funext Mark.piece_ofPiece
      rw [List.map_map, hc, List.map_id]
    rw [parse_of_spelling (spelling_write hs), hp, ofPieces_flatMap_pieces hg]

/-- **What was read is written again**, but for zeros in front of slot numbers. -/
theorem spelling_write_of_parse {template : String} {parts : List Part}
    (h : parse template = .ok parts) :
    ∃ ms, Spelling template.toList ms ∧ Spelling (write parts).toList (ms.map Mark.shortened) := by
  have hw := spelling_write (slots_lt_of_parse h)
  obtain ⟨ms, hs, rfl⟩ := exists_spelling_of_parse h
  refine ⟨ms, hs, ?_⟩
  rw [flatMap_pieces_ofPieces, List.map_map] at hw
  have hm : ms.map (Mark.ofPiece ∘ Mark.piece) = ms.map Mark.shortened :=
    List.map_congr_left fun m hm => Mark.ofPiece_piece (hs.valid m hm)
  rwa [hm] at hw

theorem parse_of_ofTemplate {template : String} {arguments : List Argument} {t : Term}
    (h : Term.ofTemplate template arguments = .ok t) : parse template = .ok t.parts := by
  unfold Term.ofTemplate at h
  split at h
  · cases h
  · next parts hp =>
    split at h
    · cases h
    · cases h
      exact hp

/-- **Terms whose own templates give them back.** -/
theorem ofTemplate_ofParts_eq_ok_iff {parts : List Part} {arguments : List Argument} :
    Term.ofTemplate (Term.ofParts parts arguments).template arguments =
        .ok (Term.ofParts parts arguments) ↔
      Gathered parts ∧ ∀ n ∈ slots parts, n < arguments.length ∧ n < slotLimit := by
  constructor
  · intro h
    have hp : parse (write parts) = .ok parts := parse_of_ofTemplate h
    obtain ⟨hg, hs⟩ := parse_write_eq_ok_iff.mp hp
    exact ⟨hg, fun n hn => ⟨Term.slots_lt_of_ofTemplate h n hn, hs n hn⟩⟩
  · rintro ⟨hg, hs⟩
    have hf : (slots parts).find? (arguments.length ≤ ·) = none := by
      rw [List.find?_eq_none]
      intro n hn
      simpa using (hs n hn).1
    have hp : parse (write parts) = .ok parts :=
      parse_write_eq_ok_iff.mpr ⟨hg, fun n hn => (hs n hn).2⟩
    rw [Term.ofTemplate, Term.ofParts, hp]
    simp only [hf]

end Template

/-! ## Terms made without a template -/

namespace Predicate

open Template (Gathered Part slots slotLimit)

/-- Made from parts that can be read back, with an argument for each slot. -/
def OfParts (p : Predicate) : Prop :=
  ∃ parts arguments, p = term (Term.ofParts parts arguments) ∧ Gathered parts ∧
    ∀ n ∈ slots parts, n < arguments.length

/-- Slots with commas between them and a text behind them. -/
theorem gathered_list {s : String} (hs : s ≠ "") (ns : List Nat) :
    Gathered ((ns.map Part.slot).intersperse (.text ",") ++ [.text s]) := by
  induction ns with
  | nil => exact ⟨hs, nofun, trivial⟩
  | cons n ns ih =>
    cases ns with
    | nil => exact ⟨hs, nofun, trivial⟩
    | cons m ns =>
      have hhead : ((((m :: ns).map Part.slot).intersperse (Part.text ",") ++
          [Part.text s]).head?.map Part.isText) ≠ some true := by
        cases ns <;> exact nofun
      exact ⟨by decide, hhead, ih⟩

theorem slots_intersperse (ns : List Nat) (s : String) :
    slots ((ns.map Part.slot).intersperse (.text s)) = ns := by
  induction ns with
  | nil => rfl
  | cons n ns ih =>
    cases ns with
    | nil => rfl
    | cons m ns => exact congrArg (n :: ·) ih

theorem slots_listParts (op : Containment) (n : Nat) :
    slots (listParts op n) = 0 :: List.range' 1 n := by
  have h := slots_intersperse (List.range' 1 n) ","
  rw [slots] at h
  rw [listParts, slots, List.filterMap_append, List.filterMap_append, h]
  exact List.append_nil _

variable (f : Field)

theorem ofParts_comparison (op : Comparison) (a : Argument) : (comparison f op a).OfParts := by
  refine ⟨_, _, rfl, ⟨by simp, nofun, trivial⟩, ?_⟩
  simp [slots, Part.slot?]

theorem ofParts_isNull : (isNull f).OfParts := by
  refine ⟨_, _, rfl, ⟨by decide, nofun, trivial⟩, ?_⟩
  simp [slots, Part.slot?]

theorem ofParts_isNotNull : (isNotNull f).OfParts := by
  refine ⟨_, _, rfl, ⟨by decide, nofun, trivial⟩, ?_⟩
  simp [slots, Part.slot?]

variable {f} in
theorem ofParts_contains {op : Containment} {vs : List Value} {p : Predicate}
    (h : contains f op vs = .ok p) : p.OfParts := by
  unfold contains at h
  split at h
  · cases h
  · next hvs =>
    obtain rfl := Except.ok.inj h
    refine ⟨_, _, rfl, ?_, ?_⟩
    · obtain ⟨v, vs, rfl⟩ := List.exists_cons_of_ne_nil hvs
      have hl := gathered_list (s := ")") (by decide) (List.range' 1 (v :: vs).length)
      refine ⟨by simp, ?_, hl⟩
      rw [List.length_cons, List.range'_succ]
      cases vs <;> exact nofun
    · intro n hn
      rw [slots_listParts, List.mem_cons, List.mem_range'_1] at hn
      simp only [List.length_cons, List.length_map]
      omega

/-- The terms that are made without a template: comparisons, tests for containment and for null,
what typed filters make of them, and the conditions of joins from equalities. -/
inductive Generated : Predicate → Prop
  | comparison (f : Field) (op : Comparison) (a : Argument) : Generated (comparison f op a)
  | contains {f : Field} {op : Containment} {vs : List Value} {p : Predicate}
      (h : contains f op vs = .ok p) : Generated p
  | isNull (f : Field) : Generated (isNull f)
  | isNotNull (f : Field) : Generated (isNotNull f)
  | compareValue {t : MemberType} (s : Subject t) (op : CompareOp) (v : t.Carrier) :
      Generated (s.compare op v)
  | like (s : Subject .text) (pattern : String) : Generated (s.like pattern)
  | notLike (s : Subject .text) (pattern : String) : Generated (s.notLike pattern)
  | containsValue {t : MemberType} {s : Subject t} {op : Containment} {vs : List t.Carrier}
      {p : Predicate} (h : s.contains op vs = .ok p) : Generated p
  | compareField {t : MemberType} (s : Subject t) (op : Comparison) (f : Field) :
      Generated (s.compareField op f)
  | equalsMember {t : MemberType} {s : Subject t} {m : Member t} {value : Option String}
      {p q : Provider} {c : Predicate} (h : (s.equalsMember m value).runWith p = (.ok c, q)) :
      Generated c
  | subjectIsNull {t : MemberType} (s : Subject t) : Generated s.isNull
  | subjectIsNotNull {t : MemberType} (s : Subject t) : Generated s.isNotNull
  | joinCondition {k : JoinKind} {e : BinaryExpr} {left joined : Alias} {p q : Provider} {j : Join}
      {c : Predicate} (h : (Join.ofEquality k e left joined).runWith p = (.ok j, q))
      (hc : j.condition = some c) : Generated c

theorem Generated.ofParts {p : Predicate} (h : p.Generated) : p.OfParts := by
  cases h with
  | comparison f op a => exact ofParts_comparison f op a
  | contains h => exact ofParts_contains h
  | isNull f => exact ofParts_isNull f
  | isNotNull f => exact ofParts_isNotNull f
  | compareValue s op v => exact ofParts_comparison s.field _ _
  | like s pattern | notLike s pattern => exact ofParts_comparison s.field _ _
  | containsValue h => exact ofParts_contains h
  | compareField s op f => exact ofParts_comparison s.field op _
  | equalsMember h =>
    obtain ⟨g, q, -, h⟩ := Resolving.runWith_bind_eq_ok_iff.mp h
    rw [Resolving.runWith_pure] at h
    obtain rfl := Except.ok.inj (Prod.mk.inj h).1
    exact ofParts_comparison _ _ _
  | subjectIsNull s => exact ofParts_isNull s.field
  | subjectIsNotNull s => exact ofParts_isNotNull s.field
  | joinCondition h hc =>
    obtain ⟨_, _, _, _, f, g, _, _, -, -, -, hj⟩ := Join.exists_of_ofEquality h
    obtain ⟨-, rfl⟩ := Join.withCondition_eq_ok_iff.mp hj
    obtain rfl := Option.some.inj hc
    exact ofParts_comparison f _ _

end Predicate

open Template in
/-- **Writing and reading templates are inverse.** Just those parts are read back from what is
written for them that have no empty and no neighbouring texts, and slot numbers of 64 bits. What is
read from a template is written again, but for zeros in front of slot numbers. Terms that are made
without a template are what their own template gives; their arguments are counted in 64 bits. -/
theorem templates_read_back :
    (∀ parts, parse (write parts) = .ok parts ↔
      Gathered parts ∧ ∀ n ∈ slots parts, n < slotLimit) ∧
    (∀ parts arguments,
      Term.ofTemplate (Term.ofParts parts arguments).template arguments =
          .ok (Term.ofParts parts arguments) ↔
        Gathered parts ∧ ∀ n ∈ slots parts, n < arguments.length ∧ n < slotLimit) ∧
    (∀ template arguments t, Term.ofTemplate template arguments = .ok t →
      ∃ ms, Spelling template.toList ms ∧
        Spelling (Term.ofParts t.parts arguments).template.toList (ms.map Mark.shortened)) ∧
    ∀ p : Predicate, p.Generated → ∃ t, p = .term t ∧
      (t.arguments.length ≤ slotLimit → Term.ofTemplate t.template t.arguments = .ok t) := by
  refine ⟨fun _ => parse_write_eq_ok_iff, fun _ _ => ofTemplate_ofParts_eq_ok_iff, ?_, ?_⟩
  · intro template arguments t h
    exact spelling_write_of_parse (parse_of_ofTemplate h)
  · intro p hp
    obtain ⟨parts, arguments, rfl, hg, hs⟩ := hp.ofParts
    refine ⟨_, rfl, fun hl => ofTemplate_ofParts_eq_ok_iff.mpr ⟨hg, fun n hn => ⟨hs n hn, ?_⟩⟩⟩
    exact Nat.lt_of_lt_of_le (hs n hn) hl

/-- Braces next to slots, a slot number with a zero in front, and a list with NaN in it. -/
theorem templates_read_back_braces :
    Term.ofTemplate "\x7b\x7b\x7b0\x7d\x7d\x7d\x7b\x7b" [.literal .null] =
      .ok ⟨"\x7b\x7b\x7b0\x7d\x7d\x7d\x7b\x7b",
        [.text "\x7b", .slot 0, .text "\x7d\x7b"], [.literal .null]⟩ ∧
    (∃ ms, Template.Spelling "\x7b\x7b\x7b00\x7d".toList ms ∧
      Template.Spelling "\x7b\x7b\x7b0\x7d".toList (ms.map Template.Mark.shortened)) ∧
    ∃ t, Predicate.contains (.id .people) .notIn [.float ⟨0x7ff8000000000000⟩, .null] =
        .ok (.term t) ∧
      t.template = "\x7b0\x7d NOT IN (\x7b1\x7d,\x7b2\x7d)" ∧
      Term.ofTemplate t.template t.arguments = .ok t := by
  obtain ⟨-, hback, hagain, hgenerated⟩ := templates_read_back
  refine ⟨?_, ?_, ?_⟩
  · have h := (hback [.text "\x7b", .slot 0, .text "\x7d\x7b"] [.literal .null]).mpr
      ⟨⟨by decide, nofun, by decide, nofun, trivial⟩, by decide⟩
    have hw : Template.write [.text "\x7b", .slot 0, .text "\x7d\x7b"] =
        "\x7b\x7b\x7b0\x7d\x7d\x7d\x7b\x7b" := by decide +kernel
    rwa [Term.ofParts, hw] at h
  · have h : Term.ofTemplate "\x7b\x7b\x7b00\x7d" [.literal .null] =
        .ok ⟨"\x7b\x7b\x7b00\x7d", [.text "\x7b", .slot 0], [.literal .null]⟩ := by rfl
    have hw : Template.write [.text "\x7b", .slot 0] = "\x7b\x7b\x7b0\x7d" := by decide +kernel
    have ha := hagain _ _ _ h
    rwa [Term.ofParts, hw] at ha
  · have hc : Predicate.contains (.id .people) .notIn [.float ⟨0x7ff8000000000000⟩, .null] =
        .ok _ := rfl
    obtain ⟨t, he, ht⟩ := hgenerated _ (.contains hc)
    obtain rfl := Predicate.term.inj he
    exact ⟨_, hc, by decide +kernel, ht (by decide)⟩

end SelectQuery
